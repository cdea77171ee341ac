import Mathlib.Data.List.TakeWhile
import MeshExport.CommandLine.Argument
import MeshExport.Proofs.Text.Separator

/-! The arguments that name an option, and how they are read. -/

namespace MeshExport.CommandLine

namespace Argument

def name? : Argument → Option String
  | long name _ => some name
  | _ => none

theorem ofString_dashes {text : String} {c : Char} {cs : List Char}
    (h : text.toList = '-' :: '-' :: c :: cs) :
    ofString text =
      match (c :: cs).dropWhile (· ≠ '=') with
      | [] => .long (String.ofList ((c :: cs).takeWhile (· ≠ '='))) none
      | _ :: value =>
        .long (String.ofList ((c :: cs).takeWhile (· ≠ '='))) (some (String.ofList value)) := by
  unfold ofString
  rw [h]
  rfl

section name

variable {name : String} (hn : '=' ∉ name.toList) (hne : name ≠ "")

include hn

theorem ne_equals : ∀ c ∈ name.toList, decide (c ≠ '=') = true := by
  intro c hc
  exact decide_eq_true fun he => hn (he ▸ hc)

include hne

theorem ofString_bare : ofString ("--" ++ name) = .long name none := by
  obtain ⟨c, cs, hc⟩ := List.exists_cons_of_ne_nil (mt String.toList_eq_nil_iff.mp hne)
  have ht : ("--" ++ name).toList = '-' :: '-' :: c :: cs := by
    rw [String.toList_append, hc]
    rfl
  rw [ofString_dashes ht, ← hc, List.dropWhile_eq_nil_iff.mpr (ne_equals hn),
    List.takeWhile_eq_self_iff.mpr (ne_equals hn), String.ofList_toList]

/-- The value may be empty, or have another equals sign. -/
theorem ofString_attached (value : String) :
    ofString ("--" ++ name ++ "=" ++ value) = .long name (some value) := by
  obtain ⟨c, cs, hc⟩ := List.exists_cons_of_ne_nil (mt String.toList_eq_nil_iff.mp hne)
  have ht : ("--" ++ name ++ "=" ++ value).toList =
      '-' :: '-' :: c :: (cs ++ '=' :: value.toList) := by
    rw [String.toList_append, String.toList_append, String.toList_append, hc]
    simp
  have hrest : c :: (cs ++ '=' :: value.toList) = name.toList ++ '=' :: value.toList := by
    rw [hc, List.cons_append]
  rw [ofString_dashes ht, hrest, List.dropWhile_append_of_pos (ne_equals hn),
    List.takeWhile_append_of_pos (ne_equals hn)]
  simp

end name

end Argument

theorem Opt.ofName?_name (o : Opt) : Opt.ofName? o.name = some o := by
  cases o <;> decide

theorem Opt.name_of_ofName? {name : String} {o : Opt} (h : Opt.ofName? name = some o) : o.name = name := by
  unfold Opt.ofName? at h
  exact eq_of_beq (List.find?_some h :)

theorem Opt.name_inj {o p : Opt} : o.name = p.name ↔ o = p := by
  constructor
  · intro h
    have ho := o.ofName?_name
    rw [h, p.ofName?_name] at ho
    exact (Option.some.inj ho).symm
  · exact congrArg Opt.name

/-- An argument before the terminator names the option. -/
def Opt.OccursIn (o : Opt) (argv : List String) : Prop :=
  ∃ text ∈ argv.takeWhile (Argument.ofString · ≠ .terminator),
    (Argument.ofString text).name? = some o.name

instance (o : Opt) (argv : List String) : Decidable (o.OccursIn argv) :=
  inferInstanceAs (Decidable (∃ text ∈ argv.takeWhile (Argument.ofString · ≠ .terminator),
    (Argument.ofString text).name? = some o.name))

namespace Opt

variable {o : Opt} {text : String} {argv : List String}

theorem not_occursIn_terminated (h : Argument.ofString text = .terminator) :
    ¬o.OccursIn (text :: argv) := by
  simp [OccursIn, h]

theorem occursIn_cons (h : Argument.ofString text ≠ .terminator) :
    o.OccursIn (text :: argv) ↔ (Argument.ofString text).name? = some o.name ∨ o.OccursIn argv := by
  simp [OccursIn, h]

/-- The argument that gives the option the value; a flag has none but `true`. -/
def argument (o : Opt) (value : String) : String :=
  if o.isFlag then "--" ++ o.name else "--" ++ o.name ++ "=" ++ value

theorem ofString_argument (o : Opt) (value : String) :
    Argument.ofString (o.argument value) =
      .long o.name (if o.isFlag then none else some value) := by
  have hn : '=' ∉ o.name.toList := by
    cases o <;> exact Text.not_mem_ofList (by decide)
  have hne : o.name ≠ "" := by
    cases o <;> decide
  unfold argument
  cases o.isFlag with
  | true => exact Argument.ofString_bare hn hne
  | false => exact Argument.ofString_attached hn hne value

end Opt

end MeshExport.CommandLine
