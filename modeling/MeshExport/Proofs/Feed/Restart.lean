import MeshExport.Proofs.Feed.Mirror

/-! Relists that are cut short by the next one. A watch that begins a relist takes the names it knows
for those that may be gone, and forgets which they were when it begins another before the first is
complete. An export it has forgotten is deleted by no relist. So a complete relist leaves exactly the
listed exports where all that were exported, or listed in vain, were known when it began or listed
again, and only there. -/

namespace MeshExport

section watch

variable {ρ : Type} [Resource ρ]

def WatchEvent.plain : WatchEvent (Named ρ) → WatchEvent ρ
  | .apply o => .apply o.object
  | .delete o => .delete o.object
  | .init => .init
  | .initApply o => .initApply o.object
  | .initDone => .initDone

def WatchEvent.about? : WatchEvent (Named ρ) → Option NamespacedName
  | .apply o => some o.key
  | .delete o => some o.key
  | .init => none
  | .initApply o => some o.key
  | .initDone => none

namespace WatchLoop

def next (w : WatchLoop ρ) : WatchEvent (Named ρ) → WatchLoop ρ × Option (FeedCall ρ)
  | .apply o => ({ w with keys := w.keys.insert o.key }, some (.apply o.object))
  | .delete o => ({ w with keys := w.keys.erase o.key }, some (.delete o.key))
  | .init => ({ w with keys := ∅, removed := w.keys }, none)
  | .initApply o =>
    ({ keys := w.keys.insert o.key, added := w.added ++ [o.object], removed := w.removed.erase o.key },
      none)
  | .initDone => ({ w with added := [], removed := ∅ }, some (.reset w.added w.removed))

theorem step_plain (w : WatchLoop ρ) (event : WatchEvent (Named ρ)) :
    w.step event.plain = .ok (w.next event) := by
  cases event with
  | apply o =>
    simp only [WatchEvent.plain, step, o.watchKey_object]
    rfl
  | delete o =>
    simp only [WatchEvent.plain, step, o.watchKey_object]
    rfl
  | init => rfl
  | initApply o =>
    simp only [WatchEvent.plain, step, o.watchKey_object]
    rfl
  | initDone => rfl

/-- The objects that wait for the end of a relist have full names. -/
def AddedNamed (w : WatchLoop ρ) : Prop := ∀ o ∈ w.added, ∃ k, key? o = some k

theorem AddedNamed.next {w : WatchLoop ρ} (h : w.AddedNamed) (event : WatchEvent (Named ρ)) :
    (w.next event).1.AddedNamed := by
  cases event with
  | initApply o =>
    intro o' ho
    rcases List.mem_append.mp ho with ho | ho
    · exact h o' ho
    · rw [List.mem_singleton.mp ho]
      exact ⟨o.key, o.named⟩
  | initDone =>
    intro o ho
    cases ho
  | _ => exact h

end WatchLoop

variable {σ : Type} {f : Feed σ ρ} {step : σ → Entry ρ → σ}

def Feed.advance (f : Feed σ ρ) (p : WatchLoop ρ × σ) (x : Walk NamespacedName × WatchEvent (Named ρ)) :
    WatchLoop ρ × σ :=
  match p.1.next x.2 with
  | (loop, none) => (loop, p.2)
  | (loop, some call) => (loop, ((f.walking x.1).run p.2 call).state)

theorem Feed.advance_loop (f : Feed σ ρ) (p : WatchLoop ρ × σ)
    (x : Walk NamespacedName × WatchEvent (Named ρ)) :
    (f.advance p x).1 = (p.1.next x.2).1 := by
  unfold advance
  split <;> simp_all

theorem Feed.addedNamed_foldl (f : Feed σ ρ) (events : List (Walk NamespacedName × WatchEvent (Named ρ)))
    {p : WatchLoop ρ × σ} (hn : p.1.AddedNamed) : (events.foldl f.advance p).1.AddedNamed := by
  induction events generalizing p with
  | nil => exact hn
  | cons x events ih =>
    refine ih ?_
    rw [advance_loop]
    exact hn.next x.2

theorem Feed.Reads.fault_next (h : f.Reads step) {loop loop' : WatchLoop ρ} (hn : loop.AddedNamed)
    {event : WatchEvent (Named ρ)} {call : FeedCall ρ} (he : loop.next event = (loop', some call))
    (w : Walk NamespacedName) (s : σ) : ((f.walking w).run s call).fault = none := by
  cases event with
  | apply o =>
    cases he
    exact (h.fault s o.object).mpr (isNamed_of_key? o.named)
  | delete o =>
    cases he
    rfl
  | initDone =>
    cases he
    refine h.fault_reset (fun o ho => ?_) w s _
    obtain ⟨k, hk⟩ := hn o ho
    exact isNamed_of_key? hk
  | _ => cases he

/-- On objects with full names a watch never ends, and goes on event by event. -/
theorem Feed.Reads.watchAll_plain (h : f.Reads step)
    (events : List (Walk NamespacedName × WatchEvent (Named ρ))) {p : WatchLoop ρ × σ}
    (hn : p.1.AddedNamed) :
    f.watchAll (.running p.1) p.2 (events.map fun x => (x.1, x.2.plain)) =
      some (.running (events.foldl f.advance p).1, (events.foldl f.advance p).2) := by
  induction events generalizing p with
  | nil => rfl
  | cons x events ih =>
    have hnext : (f.advance p x).1.AddedNamed := by
      rw [advance_loop]
      exact hn.next x.2
    rw [List.map_cons, List.foldl_cons, ← ih hnext]
    simp only [watchAll, WatchTask.take, WatchLoop.step_plain, Feed.advance]
    rcases he : p.1.next x.2 with ⟨loop, _ | call⟩
    · rfl
    · simp [h.fault_next hn he]

end watch

section relist

variable {σ ρ : Type} [Resource ρ]

def relist (listed : List (Named ρ)) (w : Walk NamespacedName) :
    List (Walk NamespacedName × WatchEvent (Named ρ)) :=
  (.listed, .init) :: (listed.map (fun o => (.listed, .initApply o)) ++ [(w, .initDone)])

/-- Listing objects leaves the state alone, collects them, and strikes them off those that may be
gone. -/
theorem foldl_initApply (f : Feed σ ρ) (listed : List (Named ρ)) (p : WatchLoop ρ × σ) :
    ∃ loop, (listed.map fun o => (Walk.listed, WatchEvent.initApply o)).foldl f.advance p =
        (loop, p.2) ∧
      loop.added = p.1.added ++ listed.map Named.object ∧
      ∀ k, k ∈ loop.removed ↔ k ∈ p.1.removed ∧ k ∉ listed.map Named.key := by
  induction listed generalizing p with
  | nil => exact ⟨p.1, rfl, by simp, fun k => by simp⟩
  | cons o listed ih =>
    obtain ⟨loop, hfold, hadded, hremoved⟩ := ih (f.advance p (.listed, .initApply o))
    refine ⟨loop, hfold, ?_, fun k => ?_⟩
    · rw [hadded]
      simp [Feed.advance, WatchLoop.next]
    · rw [hremoved]
      simp only [Feed.advance, WatchLoop.next, Std.ExtTreeSet.mem_erase, List.map_cons,
        List.mem_cons, not_or, Std.compare_eq_iff_eq, ne_eq]
      tauto

/-- A complete relist is one reset: of all that was collected, against the names the watch knew when it
began. -/
theorem foldl_relist (f : Feed σ ρ) (listed : List (Named ρ)) (w : Walk NamespacedName)
    (p : WatchLoop ρ × σ) :
    ∃ removed : Std.ExtTreeSet NamespacedName,
      (∀ k, k ∈ removed ↔ k ∈ p.1.keys ∧ k ∉ listed.map Named.key) ∧
      ((relist listed w).foldl f.advance p).2 =
        ((f.walking w).run p.2 (.reset (p.1.added ++ listed.map Named.object) removed)).state := by
  obtain ⟨loop, hfold, hadded, hremoved⟩ := foldl_initApply f listed (f.advance p (.listed, .init))
  refine ⟨loop.removed, hremoved, ?_⟩
  rw [relist, List.foldl_cons, List.foldl_append, hfold, List.foldl_cons, List.foldl_nil]
  simp only [Feed.advance, WatchLoop.next] at hadded ⊢
  rw [hadded]

end relist

namespace ExportState

theorem isExported_foldl_applied (e : ExportState) (objects : List ServiceExport) (k : ServiceId) :
    ((objects.map Entry.applied).foldl read e).isExported k = true ↔
      e.isExported k = true ∨ ∃ x ∈ objects, key? x = some k := by
  induction objects generalizing e with
  | nil => simp
  | cons x objects ih =>
    rw [List.map_cons, List.foldl_cons, ih, isExported_read]
    by_cases hk : key? x = some k <;> simp [Entry.key?, Entry.object?, hk]

theorem isExported_foldl_deleted (e : ExportState) (names : List NamespacedName) (k : ServiceId) :
    ((names.map Entry.deleted).foldl read e).isExported k = true ↔
      e.isExported k = true ∧ k ∉ names := by
  induction names generalizing e with
  | nil => simp
  | cons name names ih =>
    rw [List.map_cons, List.foldl_cons, ih, isExported_read]
    by_cases hk : name = k
    · simp [Entry.key?, Entry.object?, hk]
    · simp [Entry.key?, hk, Ne.symm hk]

/-- A reset un-exports the names it is told are gone, and not those that its objects lack. -/
theorem isExported_reset {objects : List ServiceExport} (hn : ∀ x ∈ objects, isNamed x)
    (w : Walk NamespacedName) (e : ExportState) (removed : Std.ExtTreeSet NamespacedName)
    (k : ServiceId) :
    ((exportFeed.walking w).run e (.reset objects removed)).state.isExported k = true ↔
      (e.isExported k = true ∨ ∃ x ∈ objects, key? x = some k) ∧ k ∉ removed := by
  rw [exportFeed_reads.run, FeedCall.entries_reset hn, List.foldl_append, isExported_foldl_deleted,
    isExported_foldl_applied, w.mem_order, Std.ExtTreeSet.mem_toList]

theorem isExported_relist {p : WatchLoop ServiceExport × ExportState} (hn : p.1.AddedNamed)
    (listed : List (Named ServiceExport)) (w : Walk NamespacedName) (k : ServiceId) :
    ((relist listed w).foldl exportFeed.advance p).2.isExported k = true ↔
      (p.2.isExported k = true ∨ (∃ x ∈ p.1.added, key? x = some k) ∨ k ∈ listed.map Named.key) ∧
        (k ∈ p.1.keys → k ∈ listed.map Named.key) := by
  obtain ⟨removed, hremoved, hfold⟩ := foldl_relist exportFeed listed w p
  have hlisted : (∃ x ∈ listed.map Named.object, key? x = some k) ↔ k ∈ listed.map Named.key := by
    simp only [List.mem_map, exists_exists_and_eq_and]
    refine exists_congr fun o => and_congr_right fun _ => ?_
    rw [o.named, Option.some_inj]
  have happlied : (∃ x ∈ p.1.added ++ listed.map Named.object, key? x = some k) ↔
      (∃ x ∈ p.1.added, key? x = some k) ∨ k ∈ listed.map Named.key := by
    simp only [List.mem_append, or_and_right, exists_or, hlisted]
  have hnamed : ∀ x ∈ p.1.added ++ listed.map Named.object, isNamed x := by
    intro x hx
    rcases List.mem_append.mp hx with hx | hx
    · obtain ⟨name, hname⟩ := hn x hx
      exact isNamed_of_key? hname
    · obtain ⟨o, -, rfl⟩ := List.mem_map.mp hx
      exact isNamed_of_key? o.named
  rw [hfold, isExported_reset hnamed, hremoved, happlied, not_and_not_right]

theorem isExported_foldl_of_ne {e : ExportState} {entries : List (Entry ServiceExport)} {k : ServiceId}
    (h : ∀ entry ∈ entries, entry.key? ≠ some k) :
    (entries.foldl read e).isExported k = e.isExported k := by
  induction entries generalizing e with
  | nil => rfl
  | cons entry entries ih =>
    obtain ⟨hentry, hentries⟩ := List.forall_mem_cons.mp h
    rw [List.foldl_cons, ih hentries, isExported_read, if_neg hentry]

/-- The watch has lost sight of a name: the end of a relist would neither apply nor delete it. -/
structure Forgotten (loop : WatchLoop ServiceExport) (k : ServiceId) : Prop where
  keys : k ∉ loop.keys
  removed : k ∉ loop.removed
  added : ∀ x ∈ loop.added, key? x ≠ some k

namespace Forgotten

variable {loop : WatchLoop ServiceExport} {k : ServiceId} {event : WatchEvent (Named ServiceExport)}

theorem next (h : Forgotten loop k) (hk : event.about? ≠ some k) : Forgotten (loop.next event).1 k := by
  cases event with
  | apply o =>
    have hne : o.key ≠ k := fun he => hk (congrArg some he)
    exact ⟨by simp [WatchLoop.next, hne, h.keys], h.removed, h.added⟩
  | delete o => exact ⟨by simp [WatchLoop.next, h.keys], h.removed, h.added⟩
  | init => exact ⟨by simp [WatchLoop.next], h.keys, h.added⟩
  | initApply o =>
    have hne : o.key ≠ k := fun he => hk (congrArg some he)
    refine ⟨by simp [WatchLoop.next, hne, h.keys], by simp [WatchLoop.next, h.removed], fun x hx => ?_⟩
    rcases List.mem_append.mp hx with hx | hx
    · exact h.added x hx
    · rw [List.mem_singleton.mp hx, o.named]
      exact hk
  | initDone => exact ⟨h.keys, by simp [WatchLoop.next], fun x hx => by cases hx⟩

/-- A watch that begins a relist twice has lost sight of every name it has not collected. -/
theorem of_restart (h : ∀ x ∈ loop.added, key? x ≠ some k) :
    Forgotten ((loop.next .init).1.next .init).1 k :=
  ⟨Std.ExtTreeSet.not_mem_empty, Std.ExtTreeSet.not_mem_empty, h⟩

theorem entries_ne (h : Forgotten loop k) (hk : event.about? ≠ some k) {loop' : WatchLoop ServiceExport}
    {call : FeedCall ServiceExport} (he : loop.next event = (loop', some call))
    (w : Walk NamespacedName) : ∀ entry ∈ call.entries w, entry.key? ≠ some k := by
  cases event with
  | apply o =>
    cases he
    intro entry hm
    rw [List.mem_singleton.mp hm, Entry.key?, o.named]
    exact hk
  | delete o =>
    cases he
    intro entry hm
    rw [List.mem_singleton.mp hm]
    exact hk
  | initDone =>
    cases he
    intro entry hm
    rcases List.mem_append.mp hm with hm | hm
    · obtain ⟨x, hx, rfl⟩ := List.mem_map.mp hm
      exact h.added x ((List.takeWhile_sublist _).subset hx)
    · split at hm
      · obtain ⟨name, hname, rfl⟩ := List.mem_map.mp hm
        rw [w.mem_order, Std.ExtTreeSet.mem_toList] at hname
        intro hk
        rw [Entry.key?, Option.some_inj] at hk
        exact h.removed (hk ▸ hname)
      · cases hm
  | _ => cases he

theorem isExported_advance {p : WatchLoop ServiceExport × ExportState} (h : Forgotten p.1 k)
    {x : Walk NamespacedName × WatchEvent (Named ServiceExport)} (hx : x.2.about? ≠ some k) :
    (exportFeed.advance p x).2.isExported k = p.2.isExported k := by
  rcases he : p.1.next x.2 with ⟨loop, _ | call⟩
  · simp only [Feed.advance, he]
  · simp only [Feed.advance, he, exportFeed_reads.run]
    exact isExported_foldl_of_ne (h.entries_ne hx he x.1)

/-- The flag of a forgotten name stays until an event is about it, through any number of relists. -/
theorem isExported_foldl {p : WatchLoop ServiceExport × ExportState} (h : Forgotten p.1 k)
    {events : List (Walk NamespacedName × WatchEvent (Named ServiceExport))}
    (hk : ∀ x ∈ events, x.2.about? ≠ some k) :
    (events.foldl exportFeed.advance p).2.isExported k = p.2.isExported k := by
  induction events generalizing p with
  | nil => rfl
  | cons x events ih =>
    obtain ⟨hx, hevents⟩ := List.forall_mem_cons.mp hk
    have hnext : Forgotten (exportFeed.advance p x).1 k := by
      rw [Feed.advance_loop]
      exact h.next hx
    rw [List.foldl_cons, ih hnext hevents, h.isExported_advance hx]

end Forgotten

/-- Once a relist is begun twice, what was exported stays exported through all relists to come, unless an
event is about it. -/
theorem isExported_of_restart {p : WatchLoop ServiceExport × ExportState} {k : ServiceId}
    (hadded : ∀ x ∈ p.1.added, key? x ≠ some k) (w w' : Walk NamespacedName)
    {events : List (Walk NamespacedName × WatchEvent (Named ServiceExport))}
    (hk : ∀ x ∈ events, x.2.about? ≠ some k) :
    (((w, .init) :: (w', .init) :: events).foldl exportFeed.advance p).2.isExported k =
      p.2.isExported k := by
  let q := exportFeed.advance (exportFeed.advance p (w, .init)) (w', .init)
  have hq : Forgotten q.1 k := .of_restart hadded
  show (events.foldl exportFeed.advance q).2.isExported k = q.2.isExported k
  exact hq.isExported_foldl hk

/-- After any events and a complete relist, whether or not it cut another one short, the exported
services are those exported before it, those collected and those listed, less the ones the watch knew
when it began and did not see listed. These are exactly the listed ones if and only if every service
exported before, or collected, was known or is listed. -/
theorem relist_exact_iff_known (policy : Policy) (width : Nat) (hash : ServiceId → UInt64)
    (past : List (Walk NamespacedName × WatchEvent (Named ServiceExport)))
    (listed : List (Named ServiceExport)) (w : Walk NamespacedName) :
    let start : ExportState := { policy, table := .empty width hash }
    let names := listed.map Named.key
    ∃ loop e loop' e',
      exportFeed.watchAll (.running {}) start (past.map fun x => (x.1, x.2.plain)) =
          some (.running loop, e) ∧
        exportFeed.watchAll (.running {}) start
            ((past ++ relist listed w).map fun x => (x.1, x.2.plain)) = some (.running loop', e') ∧
        (∀ k, e'.isExported k = true ↔
          (e.isExported k = true ∨ (∃ x ∈ loop.added, key? x = some k) ∨ k ∈ names) ∧
            (k ∈ loop.keys → k ∈ names)) ∧
        ((∀ k, e'.isExported k = true ↔ k ∈ names) ↔
          ∀ k, e.isExported k = true ∨ (∃ x ∈ loop.added, key? x = some k) →
            k ∈ loop.keys ∨ k ∈ names) := by
  intro start names
  have hstart : ({} : WatchLoop ServiceExport).AddedNamed := fun x hx => by cases hx
  have hwatch (events : List (Walk NamespacedName × WatchEvent (Named ServiceExport))) :=
    exportFeed_reads.watchAll_plain events (p := ({}, start)) hstart
  have hnamed : (past.foldl exportFeed.advance ({}, start)).1.AddedNamed :=
    exportFeed.addedNamed_foldl past hstart
  have hrelist := isExported_relist hnamed listed w
  refine ⟨_, _, _, _, hwatch past, hwatch (past ++ relist listed w), ?_, ?_⟩
  · rwa [List.foldl_append]
  · rw [List.foldl_append]
    constructor
    · intro hexact k hk
      by_cases hlisted : k ∈ names
      · exact .inr hlisted
      · -- it was not listed, so the relist dropped it, and only known names are dropped
        have hgone := mt (hexact k).mp hlisted
        rw [hrelist, not_and] at hgone
        have hknown := hgone (or_assoc.mp (.inl hk))
        exact .inl (Classical.not_imp.mp hknown).1
    · intro hknown k
      rw [hrelist]
      constructor
      · rintro ⟨hsource, hkept⟩
        rcases or_assoc.mpr hsource with hk | hlisted
        · exact (hknown k hk).elim hkept id
        · exact hlisted
      · exact fun hlisted => ⟨.inr (.inr hlisted), fun _ => hlisted⟩

/-- A relist that is begun twice does not un-export what only the one before it listed. -/
theorem restarted_relist_keeps_export :
    let x : Named ServiceExport := {
      object := { metadata := { name := some "svc", ns := some "ns" } }
      key := ⟨"ns", "svc"⟩
      named := rfl }
    let events := relist [x] .listed ++ [(.listed, .init)] ++ relist [] .listed
    (exportFeed.watchAll (.running {}) { policy := ⟨true, false⟩, table := .empty 16 fun _ => 0 }
      (events.map fun x => (x.1, x.2.plain))).map (fun p => p.2.isExported ⟨"ns", "svc"⟩) =
        some true := by
  decide +kernel

end ExportState
end MeshExport
