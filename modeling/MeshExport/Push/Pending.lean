import MeshExport.Trace.Traced

/-! Pending pushes. A service has at most one; a change that arrives while one is pending overwrites
it, so that a burst of changes makes one push with the settled state. Only a change that opens a
pending push wakes the dispatcher. A wake-up that no one waits for leaves at most one permit, which the
next wait takes at once. -/

namespace MeshExport

/-- Where the dispatcher is between two operations. -/
inductive Dispatcher where
  /-- Not started, stopped, or at work. -/
  | idle
  /-- Asleep until it is woken. -/
  | waiting
  /-- Woken, and not yet run since. -/
  | notified
deriving DecidableEq

structure Wake where
  permit : Bool := false
  dispatcher : Dispatcher := .idle
deriving DecidableEq

namespace Wake

def notify (w : Wake) : Wake :=
  match w.dispatcher with
  | .waiting => { w with dispatcher := .notified }
  | _ => { w with permit := true }

/-- The dispatcher is dropped; a wake-up it had not taken becomes a permit. -/
def stop (w : Wake) : Wake := ⟨w.permit || w.dispatcher == .notified, .idle⟩

end Wake

/-- The counts are meant below `2 ^ 64`. -/
structure PendingPushes where
  slots : Std.ExtTreeMap ServiceId Bool := ∅
  wake : Wake := {}
  /-- Signals emitted. -/
  emitted : Nat := 0
  /-- Changes folded into a pending push. -/
  coalesced : Nat := 0
  /-- Pushes skipped because the endpoints of the service were not known. -/
  unresolved : Nat := 0

namespace PendingPushes

def request (p : PendingPushes) (service : ServiceId) (exported : Bool) : Traced PendingPushes :=
  let slots := p.slots.insert service exported
  if service ∈ p.slots then
    ⟨{ p with slots, coalesced := p.coalesced + 1 }, [.coalesced service exported]⟩
  else ⟨{ p with slots, wake := p.wake.notify }, []⟩

def slot? (p : PendingPushes) (service : ServiceId) : Option Bool := p.slots[service]?

def size (p : PendingPushes) : Nat := p.slots.size

def detach (p : PendingPushes) : PendingPushes := { p with slots := ∅ }

theorem slot?_request (p : PendingPushes) (service : ServiceId) (exported : Bool) (k : ServiceId) :
    (p.request service exported).value.slot? k = if service = k then some exported else p.slot? k := by
  unfold request slot?
  split <;> simp [Std.ExtTreeMap.getElem?_insert]

theorem slot?_detach (p : PendingPushes) (k : ServiceId) : p.detach.slot? k = none := by
  simp [detach, slot?]

def summary (p : PendingPushes) : String :=
  "Notifier \x7b pending: " ++ toString p.size ++ ", .. \x7d"

end PendingPushes
end MeshExport
