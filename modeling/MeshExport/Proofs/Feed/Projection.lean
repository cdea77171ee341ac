import Mathlib.Data.List.Nodup
import MeshExport.Proofs.Feed.Entries

/-! What a call says about one name. Without the entries about other names a call says the same about
it, and a state in which names do not mix is told, for that name, by those entries alone. -/

namespace MeshExport

variable {ρ : Type} [Resource ρ]

namespace Entry

/-- If entries move what is seen of a state only where they are about `k`, then what is seen in the end
is told by what was seen at first and by the entries about `k`. -/
theorem view_foldl {σ β : Type} {step : σ → Entry ρ → σ} {view : σ → β} {next : β → Entry ρ → β}
    {k : NamespacedName}
    (h : ∀ s e, view (step s e) = if e.key? = some k then next (view s) e else view s) (s : σ)
    (entries : List (Entry ρ)) :
    view (entries.foldl step s) =
      (entries.filter fun e => e.key? = some k).foldl next (view s) := by
  rw [List.foldl_filter]
  refine (List.foldl_hom view fun s e => ?_).symm
  simp only [h, decide_eq_true_eq]

/-- A name is deleted once if it is among those removed, in whatever order they are walked. -/
theorem filter_deleted (k : NamespacedName) (w : Walk NamespacedName)
    (removed : Std.ExtTreeSet NamespacedName) :
    ((w.order removed.toList).map (deleted : NamespacedName → Entry ρ)).filter
        (fun e => e.key? = some k) =
      if k ∈ removed then [deleted k] else [] := by
  have hd : (w.order removed.toList).Nodup := by
    refine (w.perm _).nodup_iff.mpr (Std.ExtTreeSet.distinct_toList.imp fun hne he => hne ?_)
    rw [he, Std.compare_self]
  have hk : (fun e : Entry ρ => decide (e.key? = some k)) ∘ deleted =
      fun name => decide (name = k) := by
    funext name
    simp [key?]
  rw [List.filter_map, hk, List.filter_eq, hd.count]
  simp only [w.mem_order, Std.ExtTreeSet.mem_toList]
  split <;> rfl

end Entry

def isAbout (k : NamespacedName) (o : ρ) : Bool := (key? o).all (· = k)

theorem isAbout_of_key? {k : NamespacedName} {o : ρ} (h : key? o = some k) : isAbout k o := by
  simp [isAbout, h]

theorem isAbout_of_not_isNamed (k : NamespacedName) {o : ρ} (h : ¬ isNamed o) : isAbout k o := by
  cases hk : key? o with
  | none => simp [isAbout, hk]
  | some name => exact absurd (isNamed_of_key? hk) h

theorem takeWhile_filter_isAbout (k : NamespacedName) (objects : List ρ) :
    (objects.filter (isAbout k)).takeWhile isNamed =
      (objects.takeWhile isNamed).filter (isAbout k) := by
  induction objects with
  | nil => rfl
  | cons o objects ih =>
    by_cases hn : isNamed o
    · by_cases ha : isAbout k o <;> simp [hn, ha, ih]
    · simp [hn, isAbout_of_not_isNamed k hn]

theorem all_filter_isAbout (k : NamespacedName) (objects : List ρ) :
    (objects.filter (isAbout k)).all isNamed = objects.all isNamed := by
  rw [List.all_filter]
  refine List.all_congr rfl fun o => ?_
  by_cases hn : isNamed o
  · simp [hn]
  · simp [hn, isAbout_of_not_isNamed k hn]

namespace FeedCall

/-- The call without what it says about other names than `k`; nothing if it says nothing else. -/
def about (k : NamespacedName) : FeedCall ρ → Option (FeedCall ρ)
  | .apply o => if isAbout k o then some (.apply o) else none
  | .delete name => if name = k then some (.delete name) else none
  | .reset objects removed =>
    some (.reset (objects.filter (isAbout k)) (if k ∈ removed then {k} else ∅))

theorem filter_entries_about (k : NamespacedName) (w w' : Walk NamespacedName) (call : FeedCall ρ) :
    (((call.about k).elim [] fun call' => call'.entries w').filter fun e => e.key? = some k) =
      (call.entries w).filter fun e => e.key? = some k := by
  cases call with
  | apply o =>
    by_cases ha : isAbout k o
    · simp only [about, if_pos ha]
      rfl
    · have hk : ¬ key? o = some k := fun hk => ha (isAbout_of_key? hk)
      simp [about, ha, entries, Entry.key?, hk]
  | delete name =>
    by_cases hk : name = k <;> simp [about, hk, entries, Entry.key?]
  | reset objects removed =>
    have hm : k ∈ (if k ∈ removed then {k} else ∅ : Std.ExtTreeSet NamespacedName) ↔ k ∈ removed := by
      split <;> simp_all
    simp only [about, Option.elim_some, entries, takeWhile_filter_isAbout, all_filter_isAbout,
      List.filter_append]
    congr 1
    · rw [List.filter_map, List.filter_map, List.filter_filter]
      refine congrArg _ (List.filter_congr fun o _ => ?_)
      rw [Bool.and_eq_left_iff_imp]
      exact fun hk => isAbout_of_key? (of_decide_eq_true hk)
    · split
      · simp only [Entry.filter_deleted, hm]
      · rfl

end FeedCall

namespace Feed.Reads

variable {σ β : Type} {f : Feed σ ρ} {step : σ → Entry ρ → σ} {k : NamespacedName}

/-- A call, and the same call without what it says about other names, lead to what looks the same from
`k`, if it looked so before. -/
theorem view_run_about (h : f.Reads step) (view : σ → β) (next : β → Entry ρ → β)
    (hview : ∀ s e, view (step s e) = if e.key? = some k then next (view s) e else view s) {s s' : σ}
    (hs : view s = view s') (w w' : Walk NamespacedName) (call : FeedCall ρ) :
    view ((f.walking w).run s call).state =
      view ((call.about k).elim s' fun call' => ((f.walking w').run s' call').state) := by
  have habout : ((call.about k).elim s' fun call' => ((f.walking w').run s' call').state) =
      ((call.about k).elim [] fun call' => call'.entries w').foldl step s' := by
    cases call.about k with
    | none => rfl
    | some call' => exact h.run w' s' call'
  rw [habout, h.run, Entry.view_foldl hview, Entry.view_foldl hview,
    call.filter_entries_about k w w', hs]

end Feed.Reads
end MeshExport
