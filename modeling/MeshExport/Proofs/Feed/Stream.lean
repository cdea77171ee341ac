import Mathlib.Logic.Function.Basic
import MeshExport.Feed.Watch
import MeshExport.Proofs.Feed.Entries

/-! Streams of watch events: updates, and relists with updates in between. What a stream tells of the
objects is compared with what the watch hands to its feed. During a relist the watch keeps the names
listed so far, and those from before that were not listed again; when the relist is complete, the
entries it hands over make up for the difference, whatever was listed, and however often. -/

namespace MeshExport

section watch

variable {σ ρ : Type} [Resource ρ]

/-- Gives events to a task. With each goes the order in which a reset at that event would walk the
removed names. -/
def Feed.watchAll (f : Feed σ ρ) (task : WatchTask ρ) (s : σ) :
    List (Walk NamespacedName × WatchEvent ρ) → Option (WatchTask ρ × σ)
  | [] => some (task, s)
  | (w, event) :: events =>
    (task.take (f.walking w) s event).bind fun x => f.watchAll x.task x.outcome.state events

theorem Feed.watchAll_append (f : Feed σ ρ) (task : WatchTask ρ) (s : σ)
    (events later : List (Walk NamespacedName × WatchEvent ρ)) :
    f.watchAll task s (events ++ later) =
      (f.watchAll task s events).bind fun x => f.watchAll x.1 x.2 later := by
  induction events generalizing task s with
  | nil => rfl
  | cons e events ih =>
    simp only [List.cons_append, watchAll]
    cases task.take (f.walking e.1) s e.2 with
    | none => rfl
    | some x => exact ih x.task x.outcome.state

variable {f : Feed σ ρ} {task : WatchTask ρ} {s₀ s : σ} {loop loop' : WatchLoop ρ}
  {events : List (Walk NamespacedName × WatchEvent ρ)} {w : Walk NamespacedName}
  {event : WatchEvent ρ}

theorem Feed.watchAll_keep (h : f.watchAll task s₀ events = some (.running loop, s))
    (hs : loop.step event = .ok (loop', none)) :
    f.watchAll task s₀ (events ++ [(w, event)]) = some (.running loop', s) := by
  rw [watchAll_append, h]
  simp [watchAll, WatchTask.take, hs, Outcome.done]

theorem Feed.watchAll_call {call : FeedCall ρ}
    (h : f.watchAll task s₀ events = some (.running loop, s))
    (hs : loop.step event = .ok (loop', some call)) (hf : ((f.walking w).run s call).fault = none) :
    f.watchAll task s₀ (events ++ [(w, event)]) =
      some (.running loop', ((f.walking w).run s call).state) := by
  rw [watchAll_append, h]
  simp [watchAll, WatchTask.take, hs, hf]

end watch

/-- An object with a namespace and a name. -/
structure Named (ρ : Type) [Resource ρ] where
  object : ρ
  key : NamespacedName
  named : key? object = some key

theorem Named.watchKey_object {ρ : Type} [Resource ρ] (o : Named ρ) :
    watchKey o.object = .ok o.key := by
  have hn := o.named
  unfold key? at hn
  unfold watchKey
  split at hn
  · rename_i ns name hns hname
    rw [← Option.some_inj.mp hn]
    simp only [hns, hname]
  · cases hn

theorem Named.latest_applied {ρ : Type} [Resource ρ] (o : Named ρ) (entries : List (Entry ρ))
    (k : NamespacedName) :
    Entry.latest k (entries ++ [.applied o.object]) =
      Function.update (Entry.latest · entries) o.key (some o.object) k := by
  rw [Entry.latest_snoc, Function.update_apply]
  simp [Entry.key?, Entry.object?, o.named, eq_comm]

theorem Entry.latest_deleted {ρ : Type} [Resource ρ] (name : NamespacedName)
    (entries : List (Entry ρ)) (k : NamespacedName) :
    latest k (entries ++ [.deleted name]) = Function.update (latest · entries) name none k := by
  rw [latest_snoc, Function.update_apply]
  simp [key?, object?, eq_comm]

section names

variable {ρ : Type} {names : Std.ExtTreeSet NamespacedName} {objects : NamespacedName → Option ρ}

theorem mem_insert_iff_update (h : ∀ k, k ∈ names ↔ (objects k).isSome) (name : NamespacedName)
    (o : ρ) (k : NamespacedName) :
    k ∈ names.insert name ↔ (Function.update objects name (some o) k).isSome := by
  rw [Std.ExtTreeSet.mem_insert, h, Function.update_apply]
  by_cases hk : name = k
  · simp [hk]
  · simp [hk, Ne.symm hk]

theorem mem_erase_iff_update (h : ∀ k, k ∈ names ↔ (objects k).isSome) (name k : NamespacedName) :
    k ∈ names.erase name ↔ (Function.update objects name none k).isSome := by
  rw [Std.ExtTreeSet.mem_erase, h, Function.update_apply]
  by_cases hk : name = k
  · simp [hk]
  · simp [hk, Ne.symm hk]

end names

inductive Phase where
  | settled
  | listing
deriving DecidableEq

/-- A stream of events on named objects, up to any point between relists or within one. -/
inductive Stream (ρ : Type) [Resource ρ] : Phase → Type where
  | start : Stream ρ .settled
  | apply (past : Stream ρ .settled) (o : Named ρ) : Stream ρ .settled
  | delete (past : Stream ρ .settled) (o : Named ρ) : Stream ρ .settled
  | init (past : Stream ρ .settled) : Stream ρ .listing
  | initApply (past : Stream ρ .listing) (o : Named ρ) : Stream ρ .listing
  | initDone (past : Stream ρ .listing) (w : Walk NamespacedName) : Stream ρ .settled

namespace Stream

variable {ρ : Type} [Resource ρ]

def events {p : Phase} : Stream ρ p → List (Walk NamespacedName × WatchEvent ρ)
  | .start => []
  | .apply past o => past.events ++ [(.listed, .apply o.object)]
  | .delete past o => past.events ++ [(.listed, .delete o.object)]
  | .init past => past.events ++ [(.listed, .init)]
  | .initApply past o => past.events ++ [(.listed, .initApply o.object)]
  | .initDone past w => past.events ++ [(w, .initDone)]

/-- The objects listed so far in the relist under way. -/
def listed {p : Phase} : Stream ρ p → NamespacedName → Option ρ
  | .start => fun _ => none
  | .apply past _ => past.listed
  | .delete past _ => past.listed
  | .init past => past.listed
  | .initApply past o => Function.update past.listed o.key (some o.object)
  | .initDone _ _ => fun _ => none

/-- The objects that exist, as of the last complete relist and the updates since. -/
def live {p : Phase} : Stream ρ p → NamespacedName → Option ρ
  | .start => fun _ => none
  | .apply past o => Function.update past.live o.key (some o.object)
  | .delete past o => Function.update past.live o.key none
  | .init past => past.live
  | .initApply past _ => past.live
  | .initDone past _ => past.listed

/-- The stream without the relist under way. -/
def settled {p : Phase} : Stream ρ p → Stream ρ .settled
  | .start => .start
  | .apply past o => .apply past o
  | .delete past o => .delete past o
  | .init past => past
  | .initApply past _ => past.settled
  | .initDone past w => .initDone past w

theorem listed_settled : (stream : Stream ρ .settled) → stream.listed = fun _ => none
  | .start => rfl
  | .apply past _ => listed_settled past
  | .delete past _ => listed_settled past
  | .initDone _ _ => rfl

/-- The objects a watch knows: in a relist, those listed so far. -/
def known : {p : Phase} → Stream ρ p → NamespacedName → Option ρ
  | .settled, stream => stream.live
  | .listing, stream => stream.listed

/-- The state of the watch after a stream, and the entries its feed was given by then. -/
structure Tracks {p : Phase} (stream : Stream ρ p) (loop : WatchLoop ρ)
    (entries : List (Entry ρ)) : Prop where
  latest : ∀ k, Entry.latest k entries = stream.live k
  keys : ∀ k, k ∈ loop.keys ↔ (stream.known k).isSome
  added : ∀ k, Entry.latest k (loop.added.map .applied) = stream.listed k
  removed : ∀ k, k ∈ loop.removed ↔
    p = .listing ∧ (stream.live k).isSome ∧ stream.listed k = none
  named : ∀ o ∈ loop.added, ∃ k, key? o = some k

namespace Tracks

variable {p : Phase} {past : Stream ρ p} {loop : WatchLoop ρ} {entries : List (Entry ρ)}

theorem start : (Stream.start : Stream ρ .settled).Tracks {} [] where
  latest _ := rfl
  keys k := by simp [known, live]
  added _ := rfl
  removed k := by simp
  named o h := by cases h

theorem apply {past : Stream ρ .settled} (h : past.Tracks loop entries) (o : Named ρ) :
    (past.apply o).Tracks { loop with keys := loop.keys.insert o.key }
      (entries ++ [.applied o.object]) where
  latest k := by rw [o.latest_applied, funext h.latest, live]
  keys k := mem_insert_iff_update h.keys o.key o.object k
  added := h.added
  removed k := by simpa using h.removed k
  named := h.named

theorem delete {past : Stream ρ .settled} (h : past.Tracks loop entries) (o : Named ρ) :
    (past.delete o).Tracks { loop with keys := loop.keys.erase o.key }
      (entries ++ [.deleted o.key]) where
  latest k := by rw [Entry.latest_deleted, funext h.latest, live]
  keys k := mem_erase_iff_update h.keys o.key k
  added := h.added
  removed k := by simpa using h.removed k
  named := h.named

theorem init {past : Stream ρ .settled} (h : past.Tracks loop entries) :
    past.init.Tracks { loop with keys := ∅, removed := loop.keys } entries where
  latest := h.latest
  keys k := by simp [known, listed, listed_settled]
  added := h.added
  removed k := by simpa [known, live, listed, listed_settled] using h.keys k
  named := h.named

theorem initApply {past : Stream ρ .listing} (h : past.Tracks loop entries) (o : Named ρ) :
    (past.initApply o).Tracks
      { keys := loop.keys.insert o.key
        added := loop.added ++ [o.object]
        removed := loop.removed.erase o.key } entries where
  latest := h.latest
  keys k := mem_insert_iff_update h.keys o.key o.object k
  added k := by
    rw [List.map_append, List.map_singleton, o.latest_applied, funext h.added, listed]
  removed k := by
    have hk := h.removed k
    by_cases hko : o.key = k
    · simp [listed, hko]
    · simpa [live, listed, hko, Function.update_apply, Ne.symm hko] using hk
  named o' ho' := by
    rcases List.mem_append.mp ho' with ho' | ho'
    · exact h.named o' ho'
    · rw [List.mem_singleton.mp ho']
      exact ⟨o.key, o.named⟩

theorem isNamed_added (h : past.Tracks loop entries) : ∀ o ∈ loop.added, isNamed o := by
  intro o ho
  obtain ⟨k, hk⟩ := h.named o ho
  exact isNamed_of_key? hk

/-- A relist is complete: what was listed is applied, and what was not is deleted. -/
theorem initDone {past : Stream ρ .listing} (h : past.Tracks loop entries)
    (w : Walk NamespacedName) :
    (past.initDone w).Tracks { loop with added := [], removed := ∅ }
      (entries ++ (FeedCall.reset loop.added loop.removed).entries w) where
  latest k := by
    rw [FeedCall.entries_reset h.isNamed_added, ← List.append_assoc, Entry.latest_append_deleted,
      Entry.latest_append_applied, h.added, h.latest, live]
    have hm : k ∈ w.order loop.removed.toList ↔ k ∈ loop.removed := by
      rw [w.mem_order, Std.ExtTreeSet.mem_toList]
    have hk := h.removed k
    by_cases hr : k ∈ loop.removed
    · rw [if_pos (hm.mpr hr), (hk.mp hr).2.2]
    · rw [if_neg (mt hm.mp hr)]
      cases hl : past.listed k with
      | some o => rfl
      -- neither listed nor removed: it did not exist before
      | none => simpa [hl, hr] using hk
  keys := h.keys
  added _ := rfl
  removed k := by simp
  named o ho := by cases ho

end Tracks

end Stream

section run

variable {σ ρ : Type} [Resource ρ] {f : Feed σ ρ} {step : σ → Entry ρ → σ} {s : σ}
  {entries : List (Entry ρ)}

/-- After the stream the watch still runs, and its feed has read the entries. -/
def Feed.Follows (f : Feed σ ρ) (step : σ → Entry ρ → σ) (s : σ) {p : Phase} (stream : Stream ρ p)
    (entries : List (Entry ρ)) : Prop :=
  ∃ loop, stream.Tracks loop entries ∧
    f.watchAll (.running {}) s stream.events = some (.running loop, entries.foldl step s)

namespace Feed.Reads

theorem follows_apply (h : f.Reads step) {past : Stream ρ .settled}
    (hp : f.Follows step s past entries) (o : Named ρ) :
    f.Follows step s (past.apply o) (entries ++ [.applied o.object]) := by
  obtain ⟨loop, ht, hw⟩ := hp
  refine ⟨_, ht.apply o, ?_⟩
  have hs : loop.step (.apply o.object) =
      .ok ({ loop with keys := loop.keys.insert o.key }, some (.apply o.object)) := by
    simp only [WatchLoop.step, o.watchKey_object]
    rfl
  rw [List.foldl_append, List.foldl_cons, List.foldl_nil, ← h.apply]
  exact watchAll_call hw hs ((h.fault _ _).mpr (isNamed_of_key? o.named))

theorem follows_delete (h : f.Reads step) {past : Stream ρ .settled}
    (hp : f.Follows step s past entries) (o : Named ρ) :
    f.Follows step s (past.delete o) (entries ++ [.deleted o.key]) := by
  obtain ⟨loop, ht, hw⟩ := hp
  refine ⟨_, ht.delete o, ?_⟩
  have hs : loop.step (.delete o.object) =
      .ok ({ loop with keys := loop.keys.erase o.key }, some (.delete o.key)) := by
    simp only [WatchLoop.step, o.watchKey_object]
    rfl
  rw [List.foldl_append, List.foldl_cons, List.foldl_nil, ← h.delete]
  exact watchAll_call hw hs rfl

theorem follows_init {past : Stream ρ .settled} (hp : f.Follows step s past entries) :
    f.Follows step s past.init entries := by
  obtain ⟨loop, ht, hw⟩ := hp
  exact ⟨_, ht.init, watchAll_keep hw rfl⟩

theorem follows_initApply {past : Stream ρ .listing} (hp : f.Follows step s past entries)
    (o : Named ρ) : f.Follows step s (past.initApply o) entries := by
  obtain ⟨loop, ht, hw⟩ := hp
  refine ⟨_, ht.initApply o, watchAll_keep hw ?_⟩
  simp only [WatchLoop.step, o.watchKey_object]
  rfl

theorem follows_initDone (h : f.Reads step) {past : Stream ρ .listing}
    (hp : f.Follows step s past entries) (w : Walk NamespacedName) :
    ∃ loop, past.Tracks loop entries ∧
      f.Follows step s (past.initDone w)
        (entries ++ (FeedCall.reset loop.added loop.removed).entries w) := by
  obtain ⟨loop, ht, hw⟩ := hp
  refine ⟨loop, ht, _, ht.initDone w, ?_⟩
  rw [List.foldl_append, ← h.run]
  exact watchAll_call hw rfl (h.fault_reset ht.isNamed_added w _ _)

/-- A feed follows any stream, and stays as it is while a relist is under way. -/
theorem follows (h : f.Reads step) (s : σ) {p : Phase} (stream : Stream ρ p) :
    ∃ entries, f.Follows step s stream.settled entries ∧ f.Follows step s stream entries := by
  induction stream with
  | start =>
    have hs : f.Follows step s (.start : Stream ρ .settled) [] := ⟨_, .start, rfl⟩
    exact ⟨_, hs, hs⟩
  | apply past o ih =>
    obtain ⟨entries, -, hp⟩ := ih
    have hs := h.follows_apply hp o
    exact ⟨_, hs, hs⟩
  | delete past o ih =>
    obtain ⟨entries, -, hp⟩ := ih
    have hs := h.follows_delete hp o
    exact ⟨_, hs, hs⟩
  | init past ih =>
    obtain ⟨entries, -, hp⟩ := ih
    exact ⟨entries, hp, follows_init hp⟩
  | initApply past o ih =>
    obtain ⟨entries, hq, hp⟩ := ih
    exact ⟨entries, hq, follows_initApply hp o⟩
  | initDone past w ih =>
    obtain ⟨entries, -, hp⟩ := ih
    obtain ⟨loop, -, hs⟩ := h.follows_initDone hp w
    exact ⟨_, hs, hs⟩

end Feed.Reads
end run
end MeshExport
