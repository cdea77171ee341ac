import MeshExport.Feed.Basic

/-! The watch of one kind of resource. Events between relists go straight to the feed; a relist is
collected and handed over as one reset, with what was there before and was not listed again. -/

namespace MeshExport

inductive WatchEvent (ρ : Type) where
  | apply (object : ρ)
  | delete (object : ρ)
  /-- A relist begins. -/
  | init
  /-- An object of the list. -/
  | initApply (object : ρ)
  /-- The list is complete. -/
  | initDone

structure WatchLoop (ρ : Type) where
  /-- Objects that exist, as far as the stream has told. -/
  keys : Std.ExtTreeSet NamespacedName := ∅
  /-- Objects listed and not yet handed over. -/
  added : List ρ := []
  /-- Objects from before the relist that were not listed again. -/
  removed : Std.ExtTreeSet NamespacedName := ∅

def watchKey {ρ : Type} [Resource ρ] (o : ρ) : Except Fault NamespacedName :=
  match (Resource.metadata o).ns, (Resource.metadata o).name with
  | none, _ => .error .missingNamespace
  | some _, none => .error .missingName
  | some ns, some name => .ok ⟨ns, name⟩

namespace WatchLoop

variable {ρ : Type} [Resource ρ]

def step (w : WatchLoop ρ) : WatchEvent ρ → Except Fault (WatchLoop ρ × Option (FeedCall ρ))
  | .apply o => do
    let key ← watchKey o
    return ({ w with keys := w.keys.insert key }, some (.apply o))
  | .delete o => do
    let key ← watchKey o
    return ({ w with keys := w.keys.erase key }, some (.delete key))
  | .init => return ({ w with keys := ∅, removed := w.keys }, none)
  | .initApply o => do
    let key ← watchKey o
    return ({ keys := w.keys.insert key, added := w.added ++ [o],
              removed := w.removed.erase key }, none)
  | .initDone => return ({ w with added := [], removed := ∅ }, some (.reset w.added w.removed))

end WatchLoop

inductive WatchTask (ρ : Type) where
  | running (loop : WatchLoop ρ)
  | ended

structure Watched (σ ρ : Type) where
  task : WatchTask ρ
  outcome : Outcome σ

/-- Gives an event to a task, if it has not ended. -/
def WatchTask.take {σ ρ : Type} [Resource ρ] (task : WatchTask ρ) (feed : Feed σ ρ) (s : σ)
    (event : WatchEvent ρ) : Option (Watched σ ρ) :=
  match task with
  | .ended => none
  | .running loop =>
    match loop.step event with
    | .error fault => some ⟨.ended, .stop s fault⟩
    | .ok (loop, none) => some ⟨.running loop, .done s⟩
    | .ok (loop, some call) =>
      let outcome := feed.run s call
      some ⟨if outcome.fault.isSome then .ended else .running loop, outcome⟩

end MeshExport
