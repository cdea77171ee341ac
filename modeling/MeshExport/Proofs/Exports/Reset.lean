import Mathlib.Data.List.Dedup
import Mathlib.Data.Set.Basic
import MeshExport.Proofs.Exports.Edits
import MeshExport.Proofs.Feed.Restart

/-! What a reset does to export state, from any state. It is one write for each service among its objects
and then one for each removed name; writes of one kind commute and are not felt twice, so neither the
order nor the repetition of the objects matters, nor the order of the names. A service has a pending push
of this reset exactly if the reset moved its flag, or raised it only to lower it again. -/

namespace MeshExport

section fold

variable {σ α : Type} {step : σ → α → σ}

theorem foldl_of_mem (hcomm : ∀ s a b, step (step s a) b = step (step s b) a)
    (htwice : ∀ s a, step (step s a) a = step s a) {a : α} {l : List α} (ha : a ∈ l) (s : σ) :
    l.foldl step (step s a) = l.foldl step s := by
  induction l generalizing s with
  | nil => cases ha
  | cons b l ih =>
    rcases List.mem_cons.mp ha with rfl | ha
    · rw [List.foldl_cons, List.foldl_cons, htwice]
    · rw [List.foldl_cons, List.foldl_cons, hcomm, ih ha]

theorem foldl_dedup [DecidableEq α] (hcomm : ∀ s a b, step (step s a) b = step (step s b) a)
    (htwice : ∀ s a, step (step s a) a = step s a) (l : List α) (s : σ) :
    l.dedup.foldl step s = l.foldl step s := by
  induction l generalizing s with
  | nil => rfl
  | cons a l ih =>
    by_cases ha : a ∈ l
    · rw [List.dedup_cons_of_mem ha, ih, List.foldl_cons, foldl_of_mem hcomm htwice ha]
    · rw [List.dedup_cons_of_notMem ha, List.foldl_cons, List.foldl_cons, ih]

/-- Steps that commute and are not felt twice lead where their set leads. -/
theorem foldl_of_mem_iff [DecidableEq α] (hcomm : ∀ s a b, step (step s a) b = step (step s b) a)
    (htwice : ∀ s a, step (step s a) a = step s a) {l l' : List α} (h : ∀ a, a ∈ l ↔ a ∈ l') (s : σ) :
    l.foldl step s = l'.foldl step s := by
  have hp : l.dedup.Perm l'.dedup :=
    (List.perm_ext_iff_of_nodup l.nodup_dedup l'.nodup_dedup).mpr fun a => by
      rw [List.mem_dedup, List.mem_dedup, h]
  rw [← foldl_dedup hcomm htwice l, ← foldl_dedup hcomm htwice l',
    hp.foldl_eq' fun a _ b _ s => hcomm s a b]

end fold

namespace ExportState

def editEach (write : ServiceId → Edit) (e : ExportState) (names : List ServiceId) : ExportState :=
  names.foldl (fun e k => (e.edit (write k)).value) e

variable {write : ServiceId → Edit}

theorem own_editEach (hw : ∀ k, (write k).service = k) (e : ExportState) (names : List ServiceId)
    (k : ServiceId) :
    (e.editEach write names).own k = if k ∈ names then (write k).leave (e.own k) else e.own k := by
  induction names generalizing e with
  | nil => rfl
  | cons name names ih =>
    rw [editEach, List.foldl_cons, ← editEach, ih, own_edit, hw]
    by_cases hk : name = k
    · subst hk
      simp [Edit.leave_leave]
    · simp [hk, Ne.symm hk]

theorem editEach_of_mem_iff (hw : ∀ k, (write k).service = k) (e : ExportState)
    {names names' : List ServiceId} (h : ∀ k, k ∈ names ↔ k ∈ names') :
    e.editEach write names = e.editEach write names' := by
  refine foldl_of_mem_iff (fun e a b => ?_) (fun e a => e.edit_edit (write a)) h e
  by_cases hab : a = b
  · rw [hab]
  · exact e.edit_comm (by rwa [hw, hw])

/-- A reset of named objects: a write for each service listed, then one for each name removed. -/
theorem state_reset {objects : List ServiceExport} (hn : ∀ x ∈ objects, isNamed x)
    (w : Walk NamespacedName) (e : ExportState) (removed : Std.ExtTreeSet NamespacedName) :
    ((exportFeed.walking w).run e (.reset objects removed)).state =
      (e.editEach .created (objects.filterMap key?)).editEach .deleted (w.order removed.toList) := by
  have happlied : (objects.map Entry.applied).foldl read e =
      e.editEach .created (objects.filterMap key?) := by
    rw [editEach, List.foldl_map, List.foldl_filterMap]
    refine congrArg (fun step => objects.foldl step e) (funext fun e => funext fun x => ?_)
    simp only [read]
    cases key? x <;> rfl
  rw [exportFeed_reads.run, FeedCall.entries_reset hn, List.foldl_append, happlied, List.foldl_map]
  rfl

theorem editEach_created {e : ExportState} {names : List ServiceId}
    (h : ∀ k ∈ names, e.isExported k = true) : e.editEach .created names = e := by
  induction names with
  | nil => rfl
  | cons name names ih =>
    obtain ⟨hname, hnames⟩ := List.forall_mem_cons.mp h
    rw [editEach, List.foldl_cons, edit_of_isExported hname]
    exact ih hnames

/-- Deleting services that are not exported moves no flag, asks for no push and counts nothing. -/
theorem editEach_deleted {e : ExportState} {names : List ServiceId}
    (h : ∀ k ∈ names, e.isExported k = false) :
    (∀ k, (e.editEach .deleted names).isExported k = e.isExported k) ∧
      (e.editEach .deleted names).pushes = e.pushes ∧
      (e.editEach .deleted names).transitions = e.transitions := by
  induction names generalizing e with
  | nil => exact ⟨fun _ => rfl, rfl, rfl⟩
  | cons name names ih =>
    obtain ⟨hname, hnames⟩ := List.forall_mem_cons.mp h
    -- a record of false is removed, so the table may differ, though none of its flags does
    have hflag (k : ServiceId) : (e.edit (.deleted name)).value.isExported k = e.isExported k := by
      refine (e.isExported_deleted name k).trans ?_
      split
      · rename_i hk
        rw [← hk, hname]
      · rfl
    have hstep : (e.edit (.deleted name)).value = { e with table := (e.table.write (.deleted name)).1 } := by
      refine edit_of_told (if_neg fun hr => ?_)
      rw [isExported, (e.table.isExported_iff name).mpr hr] at hname
      cases hname
    obtain ⟨hflags, hpushes, htransitions⟩ := ih (e := (e.edit (.deleted name)).value) fun k hk => by
      rw [hflag, hnames k hk]
    refine ⟨fun k => (hflags k).trans (hflag k), hpushes.trans ?_, htransitions.trans ?_⟩
    · rw [hstep]
    · rw [hstep]

/-- The services the objects name, those without a namespace left out. -/
def named (objects : List ServiceExport) : Set ServiceId := {k | ∃ x ∈ objects, key? x = some k}

theorem mem_filterMap_key? (objects : List ServiceExport) (k : ServiceId) :
    k ∈ objects.filterMap key? ↔ k ∈ named objects :=
  List.mem_filterMap

section reset

variable {objects : List ServiceExport} (hn : ∀ x ∈ objects, isNamed x) (w : Walk NamespacedName)
  (e : ExportState) (removed : Std.ExtTreeSet NamespacedName)

include hn

open Classical in
theorem own_reset (k : ServiceId) :
    ((exportFeed.walking w).run e (.reset objects removed)).state.own k =
      let listed := if k ∈ named objects then (Edit.created k).leave (e.own k) else e.own k
      if k ∈ removed then (Edit.deleted k).leave listed else listed := by
  rw [state_reset hn, own_editEach fun _ => rfl, own_editEach fun _ => rfl]
  simp only [w.mem_order, Std.ExtTreeSet.mem_toList, mem_filterMap_key?]

open Classical in
theorem slot?_reset (k : ServiceId) :
    ((exportFeed.walking w).run e (.reset objects removed)).state.pushes.slot? k =
      if k ∈ removed ∧ (e.isExported k = true ∨ k ∈ named objects) then some false
      else if k ∈ named objects ∧ ¬ (e.isExported k = true ∨ k ∈ removed) then some true
      else e.pushes.slot? k := by
  have hr : e.isExported k = true ↔ e.table.record? k = some true := e.table.isExported_iff k
  refine (congrArg Prod.snd (own_reset hn w e removed k)).trans ?_
  by_cases hl : k ∈ named objects <;> by_cases hm : k ∈ removed <;>
    by_cases he : e.table.record? k = some true <;>
    simp [hl, hm, hr, he, own, Edit.leave, Edit.told, Edit.record]

/-- The objects matter by the services they name, the removed names by their set. -/
theorem reset_of_named {objects' : List ServiceExport} (hn' : ∀ x ∈ objects', isNamed x)
    (h : named objects' = named objects) (w' : Walk NamespacedName) :
    ((exportFeed.walking w').run e (.reset objects' removed)).state =
      ((exportFeed.walking w).run e (.reset objects removed)).state := by
  have hcreated : e.editEach .created (objects'.filterMap key?) =
      e.editEach .created (objects.filterMap key?) :=
    editEach_of_mem_iff (fun _ => rfl) e fun k => by rw [mem_filterMap_key?, mem_filterMap_key?, h]
  rw [state_reset hn', state_reset hn, hcreated]
  exact editEach_of_mem_iff (fun _ => rfl) _ fun k => by rw [w.mem_order, w'.mem_order]

theorem reset_replay (hlisted : ∀ k ∈ named objects, e.isExported k = true)
    (hgone : ∀ k ∈ removed, e.isExported k = false) :
    let e' := ((exportFeed.walking w).run e (.reset objects removed)).state
    (∀ k, e'.isExported k = e.isExported k) ∧ e'.pushes = e.pushes ∧
      e'.transitions = e.transitions := by
  have hcreated : e.editEach .created (objects.filterMap key?) = e :=
    editEach_created fun k hk => hlisted k ((mem_filterMap_key? objects k).mp hk)
  rw [state_reset hn, hcreated]
  refine editEach_deleted fun k hk => hgone k ?_
  rwa [w.mem_order, Std.ExtTreeSet.mem_toList] at hk

end reset

theorem union_diff_eq_iff {before listed gone : Set ServiceId} :
    (before ∪ listed) \ gone = listed ↔ (∀ k ∈ listed, k ∉ gone) ∧ before ⊆ listed ∪ gone := by
  constructor
  · intro h
    refine ⟨fun k hl => ?_, fun k hb => ?_⟩
    · rw [← h] at hl
      exact hl.2
    · by_cases hg : k ∈ gone
      · exact .inr hg
      · exact .inl (h ▸ ⟨.inl hb, hg⟩)
  · rintro ⟨hd, hsub⟩
    ext k
    constructor
    · rintro ⟨hb | hl, hg⟩
      · exact (hsub hb).resolve_right hg
      · exact hl
    · exact fun hl => ⟨.inr hl, hd k hl⟩

/-- From any state, a reset of named objects goes through, and leaves exactly the services exported
that were or are listed, the removed ones taken away; these are the listed ones where no listed
service is removed and every exported one is listed or removed, and only there. A removed service
that was exported or listed has a push pending that tells it is not exported, a listed one that is
neither exported nor removed one that tells it is; no other pending push is touched. The order of
the objects, their repetition and the order of the removed names make no difference at all, so a
call on the feed ends in the same state. Listing services that are exported and removing some that
are not moves no flag, no pending push and no count. -/
theorem reset_exact (e : ExportState) (objects : List ServiceExport) (hn : ∀ x ∈ objects, isNamed x)
    (removed : Std.ExtTreeSet NamespacedName) (w : Walk NamespacedName) :
    let o := exportFeed.reset e objects (w.order removed.toList)
    let before := {k | e.isExported k = true}
    let after := {k | o.state.isExported k = true}
    let listed := named objects
    let gone := {k | k ∈ removed}
    o.fault = none ∧
      after = (before ∪ listed) \ gone ∧
      (after = listed ↔ (∀ k ∈ listed, k ∉ gone) ∧ before ⊆ listed ∪ gone) ∧
      (∀ k ∈ gone ∩ (before ∪ listed), o.state.pushes.slot? k = some false) ∧
      (∀ k ∈ listed \ (before ∪ gone), o.state.pushes.slot? k = some true) ∧
      (∀ k, k ∉ gone ∩ (before ∪ listed) → k ∉ listed \ (before ∪ gone) →
        o.state.pushes.slot? k = e.pushes.slot? k) ∧
      (∀ (objects' : List ServiceExport) (w' : Walk NamespacedName), (∀ x ∈ objects', isNamed x) →
        named objects' = listed →
          (exportFeed.reset e objects' (w'.order removed.toList)).state = o.state) ∧
      (exportFeed.run e (.reset objects removed)).state = o.state ∧
      (listed ⊆ before → (∀ k ∈ gone, k ∉ before) →
        after = before ∧ o.state.pushes = e.pushes ∧ o.state.transitions = e.transitions) := by
  intro o before after listed gone
  have hafter : after = (before ∪ listed) \ gone := by
    ext k
    exact isExported_reset hn w e removed k
  have hslot := slot?_reset hn w e removed
  refine ⟨exportFeed_reads.fault_reset hn w e removed, hafter, ?_, fun k hk => ?_, fun k hk => ?_,
    fun k hgone hlisted => ?_, fun objects' w' hn' hl => ?_, ?_, fun hlisted hgone => ?_⟩
  · rw [hafter, union_diff_eq_iff]
  · exact (hslot k).trans (if_pos hk)
  · have hgone : k ∉ gone ∩ (before ∪ listed) := fun hg => hk.2 (.inr hg.1)
    exact ((hslot k).trans (if_neg hgone)).trans (if_pos hk)
  · exact ((hslot k).trans (if_neg hgone)).trans (if_neg hlisted)
  · exact reset_of_named hn w e removed hn' hl w'
  · rw [← exportFeed.walking_listed]
    exact reset_of_named hn w e removed hn rfl .listed
  · have hunexported : ∀ k ∈ removed, e.isExported k = false := fun k hk =>
      Bool.eq_false_iff.mpr (hgone k hk)
    obtain ⟨hflags, hpushes, htransitions⟩ := reset_replay hn w e removed hlisted hunexported
    exact ⟨Set.ext fun k => Eq.to_iff (congrArg (· = true) (hflags k)), hpushes, htransitions⟩

/-- A reset of three exports that have pushes pending or none: `a` is removed, `c` is listed again, and
`d` is new and listed twice, beside an object without a namespace; `b` is on record as not exported. -/
theorem reset_three_exports :
    let service (name : String) : ServiceId := ⟨"ns", name⟩
    let mark (name : String) : ServiceExport := { metadata := { name := some name, ns := some "ns" } }
    let start : ExportState := { policy := ⟨true, false⟩, table := .empty 16 fun _ => 0 }
    let e := (start.editAll
      [.created (service "a"), .set (service "b") false, .created (service "c")]).value
    let objects := [mark "d", mark "c", { metadata := { name := some "x" } }, mark "d"]
    let removed : Std.ExtTreeSet NamespacedName := .ofList [service "a", service "b"]
    let backwards : Walk NamespacedName := ⟨List.reverse, List.reverse_perm⟩
    let o := exportFeed.reset e objects (backwards.order removed.toList)
    (∀ x ∈ objects, isNamed x) ∧ o.fault = none ∧
      o.state.isExported (service "d") = true ∧
      o.state.pushes.slot? (service "a") = some false ∧
      o.state.pushes.slot? (service "c") = e.pushes.slot? (service "c") ∧
      o.state.pushes.slot? (service "d") = some true := by
  intro service mark start e objects removed backwards o
  have hn : ∀ x ∈ objects, isNamed x := by decide
  have ha : e.isExported (service "a") = true := by decide
  have hc : e.isExported (service "c") = true := by decide
  have hd : ¬ e.isExported (service "d") = true := by decide
  have hremoved : service "a" ∈ removed ∧ service "c" ∉ removed ∧ service "d" ∉ removed := by decide
  have hlisted : service "d" ∈ named objects := ⟨mark "d", by simp [objects], rfl⟩
  obtain ⟨hfault, hafter, -, hfalse, htrue, hkept, -⟩ := reset_exact e objects hn removed backwards
  refine ⟨hn, hfault, (Set.ext_iff.mp hafter _).mpr ⟨.inr hlisted, hremoved.2.2⟩,
    hfalse _ ⟨hremoved.1, .inl ha⟩, ?_, htrue _ ⟨hlisted, not_or.mpr ⟨hd, hremoved.2.2⟩⟩⟩
  exact hkept _ (fun h => hremoved.2.1 h.1) fun h => h.2 (.inl hc)

end ExportState
end MeshExport
