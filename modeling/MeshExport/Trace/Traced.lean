import MeshExport.Trace.Event

/-! Values together with the events on the way to them. -/

namespace MeshExport

/-- A value with the events on the way to it, oldest first. -/
structure Traced (α : Type) where
  value : α
  events : List Event

namespace Traced

variable {α β : Type}

def emit (e : Event) : Traced Unit := ⟨(), [e]⟩

def emitIf (c : Bool) (e : Event) : Traced Unit := ⟨(), if c then [e] else []⟩

instance : Monad Traced where
  pure a := ⟨a, []⟩
  bind t f := ⟨(f t.value).value, t.events ++ (f t.value).events⟩
  map f t := ⟨f t.value, t.events⟩

@[simp] theorem pure_value (a : α) : (pure a : Traced α).value = a := rfl

@[simp] theorem pure_events (a : α) : (pure a : Traced α).events = [] := rfl

@[simp] theorem bind_value (t : Traced α) (f : α → Traced β) :
    (t >>= f).value = (f t.value).value := rfl

@[simp] theorem bind_events (t : Traced α) (f : α → Traced β) :
    (t >>= f).events = t.events ++ (f t.value).events := rfl

@[simp] theorem map_value (f : α → β) (t : Traced α) : (f <$> t).value = f t.value := rfl

@[simp] theorem map_events (f : α → β) (t : Traced α) : (f <$> t).events = t.events := rfl

def fold (step : α → β → Traced α) (a : α) : List β → Traced α
  | [] => pure a
  | b :: bs => do
    let a ← step a b
    fold step a bs

variable (step : α → β → Traced α)

@[simp] theorem fold_nil (a : α) : fold step a [] = pure a := rfl

@[simp] theorem fold_cons_value (a : α) (b : β) (bs : List β) :
    (fold step a (b :: bs)).value = (fold step (step a b).value bs).value := rfl

@[simp] theorem fold_cons_events (a : α) (b : β) (bs : List β) :
    (fold step a (b :: bs)).events =
      (step a b).events ++ (fold step (step a b).value bs).events := rfl

theorem fold_append_value (a : α) (bs cs : List β) :
    (fold step a (bs ++ cs)).value = (fold step (fold step a bs).value cs).value := by
  induction bs generalizing a with
  | nil => rfl
  | cons b bs ih => exact ih _

theorem fold_append_events (a : α) (bs cs : List β) :
    (fold step a (bs ++ cs)).events =
      (fold step a bs).events ++ (fold step (fold step a bs).value cs).events := by
  induction bs generalizing a with
  | nil => rfl
  | cons b bs ih => rw [List.cons_append, fold_cons_events, fold_cons_events, ih, List.append_assoc]; rfl

theorem fold_map {γ : Type} (g : γ → β) (a : α) (cs : List γ) :
    fold step a (cs.map g) = fold (fun a c => step a (g c)) a cs := by
  induction cs generalizing a with
  | nil => rfl
  | cons c cs ih => rw [List.map_cons, fold, fold, funext ih]

theorem fold_value (a : α) (bs : List β) :
    (fold step a bs).value = bs.foldl (fun a b => (step a b).value) a := by
  induction bs generalizing a with
  | nil => rfl
  | cons b bs ih => exact ih _

/-- If a step shows `f b` whatever it starts from, a fold shows these one after the other. -/
theorem filterMap_events_fold {γ : Type} {g : Event → Option γ} {f : β → List γ}
    (h : ∀ a b, (step a b).events.filterMap g = f b) (a : α) (bs : List β) :
    (fold step a bs).events.filterMap g = bs.flatMap f := by
  induction bs generalizing a with
  | nil => rfl
  | cons b bs ih => simp [h, ih]

theorem filterMap_events_fold_nil {γ : Type} {g : Event → Option γ}
    (h : ∀ a b, (step a b).events.filterMap g = []) (a : α) (bs : List β) :
    (fold step a bs).events.filterMap g = [] := by
  rw [filterMap_events_fold step h]
  exact List.flatMap_eq_nil_iff.mpr fun _ _ => rfl

/-- If a step adds `f b` at the end of a list, a fold adds these one after the other. -/
theorem value_fold_append {γ : Type} {add : List γ → β → Traced (List γ)} {f : β → List γ}
    (h : ∀ acc b, (add acc b).value = acc ++ f b) (acc : List γ) (bs : List β) :
    (fold add acc bs).value = acc ++ bs.flatMap f := by
  induction bs generalizing acc with
  | nil => simp
  | cons b bs ih => simp [ih, h]

/-- What each step keeps of a state and the events so far, a fold keeps. -/
theorem fold_keeps {P : α → List Event → Prop}
    (h : ∀ a b past, P a past → P (step a b).value (past ++ (step a b).events)) {a : α}
    {past : List Event} (hp : P a past) (bs : List β) :
    P (fold step a bs).value (past ++ (fold step a bs).events) := by
  induction bs generalizing a past with
  | nil => simpa using hp
  | cons b bs ih =>
    have hb := ih (h a b past hp)
    rwa [List.append_assoc] at hb

theorem fold_keeps_value {P : α → Prop} (h : ∀ a b, P a → P (step a b).value) {a : α} (ha : P a)
    (bs : List β) : P (fold step a bs).value := by
  induction bs generalizing a with
  | nil => exact ha
  | cons b bs ih => exact ih (h a b ha)

variable {step} in
/-- If a map goes along with each step, it goes along with a fold. -/
theorem fold_hom {γ : Type} {f : α → γ} {step' : γ → β → Traced γ} {bs : List β}
    (h : ∀ b ∈ bs, ∀ a, step' (f a) b = f <$> step a b) (a : α) :
    fold step' (f a) bs = f <$> fold step a bs := by
  induction bs generalizing a with
  | nil => rfl
  | cons b bs ih =>
    obtain ⟨hb, hbs⟩ := List.forall_mem_cons.mp h
    have hrest := ih hbs (step a b).value
    rw [fold, hb]
    exact congrArg (fun t : Traced γ => (⟨t.value, (step a b).events ++ t.events⟩ : Traced γ)) hrest

end Traced
end MeshExport
