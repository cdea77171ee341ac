import MeshExport.Manifest.ServiceExport
import MeshExport.Proofs.Except

/-! What is accepted as a condition or as the status of an export, and as which. Both may be written as an
object or as a list of the fields in order, a status in either form around conditions in either form; the
form makes no difference to what is read. -/

namespace MeshExport

open Json (field?)

/-- How an optional text is written: not at all, as null, or as a string. -/
inductive OptionalText : Option Json → Option String → Prop where
  | absent : OptionalText none none
  | null : OptionalText (some .null) none
  | text (s : String) : OptionalText (some (.str s)) (some s)

namespace Condition

/-- How a condition is written. An object may have other fields besides. -/
inductive Spelled : Json → Condition → Prop where
  | object {fields : List (String × Json)} {c : Condition}
      (type : field? fields "type" = some (.str c.type))
      (status : field? fields "status" = some (.str c.status))
      (lastTransitionTime : OptionalText (field? fields "lastTransitionTime") c.lastTransitionTime)
      (reason : OptionalText (field? fields "reason") c.reason)
      (message : OptionalText (field? fields "message") c.message) : Spelled (.obj fields) c
  | list {items : List Json} {c : Condition} (length : items.length ≤ 5)
      (type : items[0]? = some (.str c.type))
      (status : items[1]? = some (.str c.status))
      (lastTransitionTime : OptionalText items[2]? c.lastTransitionTime)
      (reason : OptionalText items[3]? c.reason)
      (message : OptionalText items[4]? c.message) : Spelled (.arr items) c

end Condition

namespace ExportStatus

/-- How a status is written. Conditions that are left out are none; null does not stand for them. -/
inductive Spelled : Json → ExportStatus → Prop where
  | object {fields : List (String × Json)} {items : List Json} {s : ExportStatus}
      (conditions : field? fields "conditions" = some (.arr items))
      (each : List.Forall₂ Condition.Spelled items s.conditions) : Spelled (.obj fields) s
  | bare {fields : List (String × Json)} (absent : field? fields "conditions" = none) :
      Spelled (.obj fields) {}
  | list {items : List Json} {s : ExportStatus}
      (each : List.Forall₂ Condition.Spelled items s.conditions) : Spelled (.arr [.arr items]) s
  | empty : Spelled (.arr []) {}

end ExportStatus

namespace Decoder

theorem string_eq_ok {v : Json} {s : String} : string v = .ok s ↔ v = .str s := by
  cases v <;> simp [string]

theorem nullable_string_eq_ok {part : Option Json} {text : Option String} :
    nullable string (part.getD .null) = .ok text ↔ OptionalText part text := by
  constructor
  · intro h
    rcases part with _ | v
    · cases h
      exact .absent
    · rw [Option.getD_some] at h
      unfold nullable at h
      split at h
      · cases h
        exact .null
      · obtain ⟨s, hs, rfl⟩ := map_eq_ok.mp h
        rw [string_eq_ok.mp hs]
        exact .text s
  · intro h
    rcases h with _ | _ | s <;> rfl

variable {α : Type} {fields : List (String × Json)} {name : String}

theorem optional_eq_nullable (value : Decoder α) :
    optional fields name value = nullable value ((field? fields name).getD .null) := by
  unfold optional
  cases field? fields name <;> rfl

theorem optional_string_eq_ok {text : Option String} :
    optional fields name string = .ok text ↔ OptionalText (field? fields name) text := by
  rw [optional_eq_nullable, nullable_string_eq_ok]

theorem present_eq_ok_none {value : Decoder α} :
    present fields name value = .ok none ↔ field? fields name = none := by
  unfold present
  cases field? fields name with
  | none => simp
  | some v => simp [map_eq_ok]

theorem present_eq_ok_some {value : Decoder α} {a : α} :
    present fields name value = .ok (some a) ↔ ∃ v, field? fields name = some v ∧ value v = .ok a := by
  unfold present
  cases field? fields name with
  | none => simp
  | some v => simp [map_eq_ok]

theorem present_string_eq_ok {s : String} :
    present fields name string = .ok (some s) ↔ field? fields name = some (.str s) := by
  simp [present_eq_ok_some, string_eq_ok]

theorem required_eq_ok {value : Option α} {a : α} : required name value = .ok a ↔ value = some a := by
  cases value <;> simp [required]

theorem list_eq_ok {item : Decoder α} {v : Json} {as : List α} :
    list item v = .ok as ↔
      ∃ items, v = .arr items ∧ List.Forall₂ (fun w a => item w = .ok a) items as := by
  cases v <;> simp [list, mapM_eq_ok]

theorem atMost_eq_ok {items : List Json} {fields : Nat} {u : Unit} :
    atMost items fields = .ok u ↔ items.length ≤ fields := by
  simp [atMost]

end Decoder

open Decoder

namespace Condition

theorem ofFields_eq_ok {fields : List (String × Json)} {c : Condition} :
    ofFields fields = .ok c ↔ Spelled (.obj fields) c := by
  constructor
  · intro h
    unfold ofFields at h
    simp only [bind_eq_ok, optional_string_eq_ok, required_eq_ok, pure_eq_ok] at h
    obtain ⟨time, htime, message, hmessage, reason, hreason, _, hstatus, _, htype, type, rfl, status,
      rfl, rfl⟩ := h
    exact .object (present_string_eq_ok.mp htype) (present_string_eq_ok.mp hstatus) htime hreason hmessage
  · rintro ⟨htype, hstatus, htime, hreason, hmessage⟩
    unfold ofFields
    simp only [bind_eq_ok, optional_string_eq_ok, required_eq_ok, pure_eq_ok]
    exact ⟨_, htime, _, hmessage, _, hreason, _, present_string_eq_ok.mpr hstatus, _,
      present_string_eq_ok.mpr htype, _, rfl, _, rfl, rfl⟩

theorem ofItems_eq_ok {items : List Json} {c : Condition} :
    ofItems items = .ok c ↔ Spelled (.arr items) c := by
  constructor
  · intro h
    unfold ofItems at h
    split at h
    · cases h
    · obtain ⟨_, _, h⟩ := bind_eq_ok.mp h
      cases h
    · rename_i type status rest
      simp only [bind_eq_ok, string_eq_ok, nullable_string_eq_ok] at h
      obtain ⟨type, rfl, status, rfl, time, htime, reason, hreason, message, hmessage, h⟩ := h
      split at h
      · cases h
      · rename_i hlength
        cases h
        exact .list (Nat.add_le_add_right (Nat.le_of_not_gt hlength) 2) rfl rfl htime hreason hmessage
  · intro h
    rcases h with _ | ⟨hlength, htype, hstatus, htime, hreason, hmessage⟩
    rcases items with _ | ⟨type, _ | ⟨status, rest⟩⟩
    · cases htype
    · cases hstatus
    · cases htype
      cases hstatus
      unfold ofItems
      simp only [bind_eq_ok, string_eq_ok, nullable_string_eq_ok]
      refine ⟨_, rfl, _, rfl, _, htime, _, hreason, _, hmessage, ?_⟩
      have hrest : ¬rest.length > 3 := by
        simp only [List.length_cons] at hlength
        omega
      rw [if_neg hrest]
      rfl

theorem decode_eq_ok {v : Json} {c : Condition} : decode v = .ok c ↔ Spelled v c := by
  cases v with
  | obj fields => exact ofFields_eq_ok
  | arr items => exact ofItems_eq_ok
  | _ => exact ⟨(nomatch ·), (nomatch ·)⟩

end Condition

namespace ExportStatus

theorem list_conditions_eq_ok {v : Json} {conditions : List Condition} :
    list Condition.decode v = .ok conditions ↔
      ∃ items, v = .arr items ∧ List.Forall₂ Condition.Spelled items conditions := by
  simp only [list_eq_ok, Condition.decode_eq_ok]

theorem decode_eq_ok {v : Json} {s : ExportStatus} : decode v = .ok s ↔ Spelled v s := by
  constructor
  · intro h
    unfold decode at h
    split at h
    · rename_i fields
      obtain ⟨conditions, hconditions, h⟩ := bind_eq_ok.mp h
      cases h
      rcases conditions with _ | conditions
      · exact .bare (present_eq_ok_none.mp hconditions)
      · obtain ⟨v, hfield, hlist⟩ := present_eq_ok_some.mp hconditions
        obtain ⟨items, rfl, heach⟩ := list_conditions_eq_ok.mp hlist
        exact .object hfield heach
    · cases h
      exact .empty
    · -- a second item would be too many
      rename_i first rest
      obtain ⟨conditions, hlist, h⟩ := bind_eq_ok.mp h
      obtain ⟨_, hmost, h⟩ := bind_eq_ok.mp h
      cases h
      obtain ⟨items, rfl, heach⟩ := list_conditions_eq_ok.mp hlist
      have hrest : rest = [] := List.eq_nil_of_length_eq_zero
        (Nat.le_zero.mp (Nat.le_of_add_le_add_right (atMost_eq_ok.mp hmost)))
      subst hrest
      exact .list heach
    · cases h
  · intro h
    rcases h with ⟨hfield, heach⟩ | habsent | heach | _
    · have hlist := list_conditions_eq_ok.mpr ⟨_, rfl, heach⟩
      exact bind_eq_ok.mpr ⟨_, present_eq_ok_some.mpr ⟨_, hfield, hlist⟩, rfl⟩
    · exact bind_eq_ok.mpr ⟨_, present_eq_ok_none.mpr habsent, rfl⟩
    · have hlist := list_conditions_eq_ok.mpr ⟨_, rfl, heach⟩
      exact bind_eq_ok.mpr ⟨_, hlist, rfl⟩
    · rfl

end ExportStatus

/-! The two forms. -/

namespace Condition

/-- The items list the values of the fields in order. The value of an optional field that is left out is
null, and nulls at the end may be left out. -/
structure Lists (fields : List (String × Json)) (items : List Json) : Prop where
  length : items.length ≤ 5
  type : items[0]? = field? fields "type"
  status : items[1]? = field? fields "status"
  lastTransitionTime : items[2]?.getD .null = (field? fields "lastTransitionTime").getD .null
  reason : items[3]?.getD .null = (field? fields "reason").getD .null
  message : items[4]?.getD .null = (field? fields "message").getD .null

inductive Alike : Json → Json → Prop where
  | listed {fields : List (String × Json)} {items : List Json} (h : Lists fields items) :
      Alike (.obj fields) (.arr items)
  | refl (v : Json) : Alike v v
  | symm {v w : Json} : Alike v w → Alike w v
  | trans {u v w : Json} : Alike u v → Alike v w → Alike u w

end Condition

theorem OptionalText.congr {part part' : Option Json} (h : part.getD .null = part'.getD .null)
    {text : Option String} : OptionalText part text ↔ OptionalText part' text := by
  rw [← nullable_string_eq_ok, h, nullable_string_eq_ok]

namespace Condition

theorem spelled_of_lists {fields : List (String × Json)} {items : List Json} (h : Lists fields items)
    {c : Condition} : Spelled (.obj fields) c ↔ Spelled (.arr items) c := by
  constructor
  · rintro ⟨htype, hstatus, htime, hreason, hmessage⟩
    exact .list h.length (h.type.trans htype) (h.status.trans hstatus)
      ((OptionalText.congr h.lastTransitionTime).mpr htime) ((OptionalText.congr h.reason).mpr hreason)
      ((OptionalText.congr h.message).mpr hmessage)
  · rintro (_ | ⟨-, htype, hstatus, htime, hreason, hmessage⟩)
    exact .object (h.type.symm.trans htype) (h.status.symm.trans hstatus)
      ((OptionalText.congr h.lastTransitionTime).mp htime) ((OptionalText.congr h.reason).mp hreason)
      ((OptionalText.congr h.message).mp hmessage)

/-- An object with the two fields that have to be there has its values listed with nothing left out. -/
theorem lists_values {fields : List (String × Json)} {type status : Json}
    (htype : field? fields "type" = some type) (hstatus : field? fields "status" = some status) :
    Lists fields [type, status, (field? fields "lastTransitionTime").getD .null,
      (field? fields "reason").getD .null, (field? fields "message").getD .null] :=
  ⟨Nat.le_refl 5, htype.symm, hstatus.symm, rfl, rfl, rfl⟩

theorem Alike.spelled {v w : Json} (h : Alike v w) (c : Condition) : Spelled v c ↔ Spelled w c := by
  induction h with
  | listed h => exact spelled_of_lists h
  | refl v => exact Iff.rfl
  | symm _ ih => exact ih.symm
  | trans _ _ ih ih' => exact ih.trans ih'

end Condition

namespace ExportStatus

inductive Alike : Json → Json → Prop where
  | listed {fields : List (String × Json)} {conditions : Json}
      (h : field? fields "conditions" = some conditions) : Alike (.obj fields) (.arr [conditions])
  | bare {fields : List (String × Json)} (h : field? fields "conditions" = none) :
      Alike (.obj fields) (.arr [])
  | conditions {items items' : List Json} (h : List.Forall₂ Condition.Alike items items') :
      Alike (.arr [.arr items]) (.arr [.arr items'])
  | refl (v : Json) : Alike v v
  | symm {v w : Json} : Alike v w → Alike w v
  | trans {u v w : Json} : Alike u v → Alike v w → Alike u w

theorem spelled_each {items items' : List Json} (h : List.Forall₂ Condition.Alike items items')
    (conditions : List Condition) :
    List.Forall₂ Condition.Spelled items conditions ↔ List.Forall₂ Condition.Spelled items' conditions := by
  induction h generalizing conditions with
  | nil => exact Iff.rfl
  | cons hv _ ih => simp only [List.forall₂_cons_left_iff, hv.spelled, ih]

theorem Alike.spelled {v w : Json} (h : Alike v w) (s : ExportStatus) : Spelled v s ↔ Spelled w s := by
  induction h with
  | listed h =>
    constructor
    · intro hs
      rcases hs with ⟨hfield, heach⟩ | habsent
      · cases h.symm.trans hfield
        exact .list heach
      · cases h.symm.trans habsent
    · intro hs
      rcases hs with _ | _ | heach
      exact .object h heach
  | bare h =>
    constructor
    · intro hs
      rcases hs with ⟨hfield, -⟩ | -
      · cases h.symm.trans hfield
      · exact .empty
    · intro hs
      cases hs
      exact .bare h
  | conditions h =>
    constructor
    · intro hs
      rcases hs with _ | _ | heach
      exact .list ((spelled_each h _).mp heach)
    · intro hs
      rcases hs with _ | _ | heach
      exact .list ((spelled_each h _).mpr heach)
  | refl v => exact Iff.rfl
  | symm _ ih => exact ih.symm
  | trans _ _ ih ih' => exact ih.trans ih'

end ExportStatus

/-- A condition, and the status of an export, is accepted exactly if it is spelled as one, and then as
what it spells. An object and the list of its fields are accepted alike and as the same value: so are two
statuses that differ in the forms they are written in, of their own and of each of their conditions. -/
theorem decoded_by_grammar :
    (∀ (v : Json) (c : Condition), Condition.decode v = .ok c ↔ Condition.Spelled v c) ∧
      (∀ (v : Json) (s : ExportStatus), ExportStatus.decode v = .ok s ↔ ExportStatus.Spelled v s) ∧
      (∀ v w : Json, Condition.Alike v w → (Condition.decode v).toOption = (Condition.decode w).toOption) ∧
      ∀ v w : Json, ExportStatus.Alike v w →
        (ExportStatus.decode v).toOption = (ExportStatus.decode w).toOption := by
  refine ⟨fun v c => Condition.decode_eq_ok, fun v s => ExportStatus.decode_eq_ok, fun v w h => ?_,
    fun v w h => ?_⟩
  · refine toOption_congr fun c => ?_
    rw [Condition.decode_eq_ok, Condition.decode_eq_ok, h.spelled]
  · refine toOption_congr fun s => ?_
    rw [ExportStatus.decode_eq_ok, ExportStatus.decode_eq_ok, h.spelled]

/-- A status in each form, around one condition in both: the object's list and the object itself. -/
theorem mixed_forms_alike :
    let object : Json := .obj [("extra", .null), ("reason", .str "r"), ("status", .str "True"),
      ("type", .str "Valid")]
    let listed : Json := .arr [.str "Valid", .str "True", .null, .str "r", .null]
    let v : Json := .obj [("conditions", .arr [object, listed])]
    let w : Json := .arr [.arr [listed, object]]
    let c : Condition := ⟨"Valid", "True", none, some "r", none⟩
    ExportStatus.Alike v w ∧ (ExportStatus.decode v).toOption = (ExportStatus.decode w).toOption ∧
      ExportStatus.decode w = .ok ⟨[c, c]⟩ ∧
      ∀ s, ExportStatus.decode (.obj [("conditions", .null)]) ≠ .ok s := by
  intro object listed v w c
  obtain ⟨-, hspelled, -, halike⟩ := decoded_by_grammar
  have hforms : Condition.Alike object listed := .listed (Condition.lists_values rfl rfl)
  have hconditions : List.Forall₂ Condition.Alike [object, listed] [listed, object] :=
    .cons hforms (.cons hforms.symm .nil)
  have hstatus : ExportStatus.Alike v w := (ExportStatus.Alike.listed rfl).trans (.conditions hconditions)
  refine ⟨hstatus, halike v w hstatus, rfl, fun s hs => ?_⟩
  rcases (hspelled _ s).mp hs with ⟨hfield, -⟩ | habsent
  · cases hfield
  · cases habsent

end MeshExport
