import Mathlib.Data.List.Induction
import Mathlib.Data.List.TakeWhile
import MeshExport.Feed.Basic

/-! A call on a feed amounts to entries, one for each object applied and each name deleted. A feed
that reads entries one by one ends a call where its entries end, whatever the order in which the
removed names of a reset are walked. The latest entry of a name tells which object it has. -/

namespace MeshExport

/-- An order in which the elements of a table are walked. -/
structure Walk (α : Type) where
  order : List α → List α
  perm : ∀ l, (order l).Perm l

def Walk.listed {α : Type} : Walk α := ⟨id, fun _ => .refl _⟩

theorem Walk.mem_order {α : Type} (w : Walk α) (l : List α) (a : α) : a ∈ w.order l ↔ a ∈ l :=
  (w.perm l).mem_iff

/-- The feed whose resets walk the removed names in another order. -/
def Feed.walking {σ ρ : Type} (f : Feed σ ρ) (w : Walk NamespacedName) : Feed σ ρ :=
  { f with reset := fun s objects names => f.reset s objects (w.order names) }

theorem Feed.walking_listed {σ ρ : Type} (f : Feed σ ρ) : f.walking .listed = f := rfl

def Feed.Replays {σ ρ : Type} (f : Feed σ ρ) : Prop :=
  ∀ s objects names, f.reset s objects names = replay f.apply f.delete s objects names

theorem Feed.Replays.run_reset {σ ρ : Type} {f : Feed σ ρ} (h : f.Replays) (w : Walk NamespacedName)
    (s : σ) (objects : List ρ) (removed : Std.ExtTreeSet NamespacedName) :
    (f.walking w).run s (.reset objects removed) =
      replay f.apply f.delete s objects (w.order removed.toList) :=
  h ..

section entries

variable {σ ρ : Type} [Resource ρ]

def isNamed (o : ρ) : Bool := (Resource.metadata o).name.isSome

theorem isNamed_iff {o : ρ} : isNamed o = true ↔ (Resource.metadata o).name ≠ none := by
  rw [isNamed, Option.isSome_iff_ne_none]

theorem isNamed_eq_false_iff {o : ρ} : isNamed o = false ↔ (Resource.metadata o).name = none := by
  rw [isNamed, Option.isSome_eq_false_iff, Option.isNone_iff_eq_none]

def key? (o : ρ) : Option NamespacedName :=
  match (Resource.metadata o).ns, (Resource.metadata o).name with
  | some ns, some name => some ⟨ns, name⟩
  | _, _ => none

theorem isNamed_of_key? {o : ρ} {k : NamespacedName} (h : key? o = some k) : isNamed o := by
  unfold key? at h
  split at h
  · rename_i hname
    simp [isNamed, hname]
  · cases h

inductive Entry (ρ : Type) where
  | applied (object : ρ)
  | deleted (name : NamespacedName)

namespace Entry

/-- The name an entry is about; an object without a full name is about none. -/
def key? : Entry ρ → Option NamespacedName
  | applied o => MeshExport.key? o
  | deleted name => some name

def object? : Entry ρ → Option ρ
  | applied o => some o
  | deleted _ => none

/-- The object of a name after the entries: that of the last entry about it, if it was applied. -/
def latest (k : NamespacedName) (entries : List (Entry ρ)) : Option ρ :=
  (entries.filter fun e => e.key? = some k).getLast?.bind object?

@[simp] theorem latest_nil (k : NamespacedName) : latest k ([] : List (Entry ρ)) = none := rfl

theorem latest_snoc (k : NamespacedName) (entries : List (Entry ρ)) (e : Entry ρ) :
    latest k (entries ++ [e]) = if e.key? = some k then e.object? else latest k entries := by
  unfold latest
  by_cases h : e.key? = some k <;> simp [h]

theorem latest_append_applied (k : NamespacedName) (entries : List (Entry ρ)) (objects : List ρ) :
    latest k (entries ++ objects.map applied) =
      (latest k (objects.map applied)).or (latest k entries) := by
  induction objects using List.reverseRecOn with
  | nil => simp
  | append_singleton objects o ih =>
    rw [List.map_append, List.map_singleton, ← List.append_assoc, latest_snoc, latest_snoc, ih]
    split <;> rfl

theorem isSome_latest_applied {objects : List ρ} {o : ρ} (ho : o ∈ objects) {k : NamespacedName}
    (hk : MeshExport.key? o = some k) : (latest k (objects.map applied)).isSome := by
  induction objects using List.reverseRecOn with
  | nil => cases ho
  | append_singleton objects o' ih =>
    rw [List.map_append, List.map_singleton, latest_snoc]
    split
    · rfl
    · rename_i hne
      rcases List.mem_append.mp ho with ho | ho
      · exact ih ho
      · rw [List.mem_singleton.mp ho] at hk
        exact absurd hk hne

theorem latest_append_deleted (k : NamespacedName) (entries : List (Entry ρ))
    (names : List NamespacedName) :
    latest k (entries ++ names.map deleted) = if k ∈ names then none else latest k entries := by
  induction names using List.reverseRecOn with
  | nil => simp
  | append_singleton names name ih =>
    rw [List.map_append, List.map_singleton, ← List.append_assoc, latest_snoc, ih]
    by_cases hk : name = k
    · simp [key?, object?, hk]
    · simp [key?, hk, Ne.symm hk]

end Entry

/-- What a call amounts to. A reset that meets a nameless object goes no further. -/
def FeedCall.entries (w : Walk NamespacedName) : FeedCall ρ → List (Entry ρ)
  | .apply o => [.applied o]
  | .delete name => [.deleted name]
  | .reset objects removed =>
    (objects.takeWhile isNamed).map .applied ++
      if objects.all isNamed then (w.order removed.toList).map .deleted else []

theorem FeedCall.entries_reset {objects : List ρ} (h : ∀ o ∈ objects, isNamed o)
    (w : Walk NamespacedName) (removed : Std.ExtTreeSet NamespacedName) :
    (FeedCall.reset objects removed).entries w =
      objects.map .applied ++ (w.order removed.toList).map .deleted := by
  rw [entries, List.takeWhile_eq_self_iff.mpr h, if_pos (List.all_eq_true.mpr h)]

/-- A feed that reads its calls entry by entry, and stops at a nameless object only. -/
structure Feed.Reads (f : Feed σ ρ) (step : σ → Entry ρ → σ) : Prop where
  apply : ∀ s o, (f.apply s o).state = step s (.applied o)
  skip : ∀ s o, isNamed o = false → step s (.applied o) = s
  fault : ∀ s o, (f.apply s o).fault = none ↔ isNamed o
  delete : ∀ s n, (f.delete s n).value = step s (.deleted n)
  reset : f.Replays

namespace Feed.Reads

variable {f : Feed σ ρ} {step : σ → Entry ρ → σ}

theorem applyAll (h : f.Reads step) (objects : List ρ) (s : σ) :
    (MeshExport.applyAll f.apply s objects).state =
        ((objects.takeWhile isNamed).map Entry.applied).foldl step s ∧
      ((MeshExport.applyAll f.apply s objects).fault = none ↔ objects.all isNamed) := by
  induction objects generalizing s with
  | nil => simp [MeshExport.applyAll, Outcome.done]
  | cons o os ih =>
    cases hn : isNamed o with
    | false =>
      have hf : (f.apply s o).fault ≠ none := fun hf => by simp [(h.fault s o).mp hf] at hn
      obtain ⟨fault, hf⟩ := Option.ne_none_iff_exists'.mp hf
      simp [MeshExport.applyAll, Outcome.andThen, hf, hn, h.apply, h.skip s o hn]
    | true =>
      have hf : (f.apply s o).fault = none := (h.fault s o).mpr hn
      simp [MeshExport.applyAll, Outcome.andThen, hf, hn, h.apply, ih]

theorem deleteAll (h : f.Reads step) (names : List NamespacedName) (s : σ) :
    (Traced.fold f.delete s names).value = (names.map Entry.deleted).foldl step s := by
  rw [Traced.fold_value, List.foldl_map]
  simp only [h.delete]

/-- A call leaves the state its entries lead to. -/
theorem run (h : f.Reads step) (w : Walk NamespacedName) (s : σ) (call : FeedCall ρ) :
    ((f.walking w).run s call).state = (call.entries w).foldl step s := by
  cases call with
  | apply o => exact h.apply s o
  | delete name => exact h.delete s name
  | reset objects removed =>
    obtain ⟨hs, hf⟩ := h.applyAll objects s
    rw [h.reset.run_reset, FeedCall.entries, List.foldl_append, ← hs, replay, Outcome.andThen]
    by_cases ha : objects.all isNamed
    · simp only [hf.mpr ha, if_pos ha]
      exact h.deleteAll _ _
    · obtain ⟨fault, hfault⟩ := Option.ne_none_iff_exists'.mp (mt hf.mp ha)
      simp only [hfault, if_neg ha]
      rfl

theorem fault_reset (h : f.Reads step) {objects : List ρ} (hn : ∀ o ∈ objects, isNamed o)
    (w : Walk NamespacedName) (s : σ) (removed : Std.ExtTreeSet NamespacedName) :
    ((f.walking w).run s (.reset objects removed)).fault = none := by
  have hf := (h.applyAll objects s).2.mpr (List.all_eq_true.mpr hn)
  rw [h.reset.run_reset]
  simp only [replay, Outcome.andThen, hf]
  rfl

end Feed.Reads

end entries

section keeps

variable {σ ρ : Type}

/-- What a feed keeps of a state and the events so far. -/
structure Feed.Keeps (f : Feed σ ρ) (P : σ → List Event → Prop) : Prop where
  apply : ∀ s o past, P s past → P (f.apply s o).state (past ++ (f.apply s o).events)
  delete : ∀ s n past, P s past → P (f.delete s n).value (past ++ (f.delete s n).events)
  reset : f.Replays

namespace Feed.Keeps

variable {f : Feed σ ρ} {P : σ → List Event → Prop}

theorem applyAll (h : f.Keeps P) (objects : List ρ) {s : σ} {past : List Event} (hp : P s past) :
    P (MeshExport.applyAll f.apply s objects).state
      (past ++ (MeshExport.applyAll f.apply s objects).events) := by
  induction objects generalizing s past with
  | nil => simpa [MeshExport.applyAll, Outcome.done] using hp
  | cons o os ih =>
    have ho := h.apply s o past hp
    simp only [MeshExport.applyAll, Outcome.andThen]
    split
    · exact ho
    · have hos := ih ho
      rwa [List.append_assoc] at hos

theorem run (h : f.Keeps P) (w : Walk NamespacedName) (call : FeedCall ρ) {s : σ}
    {past : List Event} (hp : P s past) :
    P ((f.walking w).run s call).state (past ++ ((f.walking w).run s call).events) := by
  cases call with
  | apply o => exact h.apply s o past hp
  | delete name => exact h.delete s name past hp
  | reset objects removed =>
    have ho := h.applyAll objects hp
    rw [h.reset.run_reset]
    simp only [replay, Outcome.andThen]
    split
    · exact ho
    · have hd := Traced.fold_keeps f.delete h.delete ho (w.order removed.toList)
      rwa [List.append_assoc] at hd

end Feed.Keeps

/-- Calls on a feed go along with a map of its states. -/
structure Feed.Commutes (f : Feed σ ρ) (g : σ → σ) : Prop where
  apply : ∀ s o, f.apply (g s) o = (f.apply s o).map g
  delete : ∀ s n, f.delete (g s) n = g <$> f.delete s n
  reset : f.Replays

namespace Feed.Commutes

variable {f : Feed σ ρ} {g : σ → σ}

theorem applyAll (h : f.Commutes g) (s : σ) (objects : List ρ) :
    MeshExport.applyAll f.apply (g s) objects = (MeshExport.applyAll f.apply s objects).map g := by
  induction objects generalizing s with
  | nil => rfl
  | cons o os ih =>
    simp only [MeshExport.applyAll, h.apply, Outcome.andThen, Outcome.map, ih]
    split <;> rfl

theorem run (h : f.Commutes g) (w : Walk NamespacedName) (s : σ) (call : FeedCall ρ) :
    (f.walking w).run (g s) call = ((f.walking w).run s call).map g := by
  cases call with
  | apply o => exact h.apply s o
  | delete name => exact congrArg Outcome.ofTraced (h.delete s name)
  | reset objects removed =>
    rw [h.reset.run_reset, h.reset.run_reset]
    simp only [replay, h.applyAll, Outcome.andThen, Outcome.map, Outcome.ofTraced]
    split
    · rfl
    · rw [Traced.fold_hom fun name _ s => h.delete s name]
      rfl

end Feed.Commutes
end keeps
end MeshExport
