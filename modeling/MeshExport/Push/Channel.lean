import MeshExport.Push.Dispatch

/-! An unbounded channel for signals, and the push pipeline at its end, which receives them. -/

namespace MeshExport

inductive Receiver where
  /-- Nobody has taken it yet. -/
  | unclaimed
  /-- The push pipeline. -/
  | pipeline
  /-- It is gone, and signals with it. -/
  | closed
deriving DecidableEq

structure Channel where
  /-- Signals not yet received, oldest first. -/
  queue : List Signal := []
  receiver : Receiver := .unclaimed

/-- When a signal of `service` is sent, `target` is set to `exported` first. -/
structure PushRule where
  service : ServiceId
  target : ServiceId
  exported : Bool
deriving DecidableEq

namespace Channel

/-- Sends a signal; one that nobody can receive is dropped. -/
def send (c : Channel) (signal : Signal) : Channel :=
  if c.receiver = .closed then c else { c with queue := c.queue ++ [signal] }

def sink : Sink Channel := fun c _ signal =>
  { state := c.send signal, lost := c.receiver == .closed }

def sinkWith (rules : List PushRule) : Sink Channel := fun c e signal =>
  let due := rules.filter fun r => r.service = signal.service
  { sink c e signal with edits := due.map fun r => .set r.target r.exported }

/-- Drops the receiver while nobody has taken it. -/
def close (c : Channel) : Channel :=
  if c.receiver = .unclaimed then ⟨[], .closed⟩ else c

def drain (c : Channel) : List Signal × Channel := (c.queue, { c with queue := [] })

end Channel

structure Pipeline where
  /-- Signals received, fewer than `2 ^ 64`. -/
  delivered : Nat := 0

namespace Pipeline

def receive (p : Pipeline) (signal : Signal) : Traced Pipeline :=
  ⟨{ p with delivered := p.delivered + 1 }, [.visibilityChanged signal]⟩

def receiveAll (p : Pipeline) (signals : List Signal) : Traced Pipeline :=
  Traced.fold receive p signals

/-- Receives the signals of a channel that no one sends on any more. -/
def finish (p : Pipeline) (signals : List Signal) : Traced Pipeline := do
  let p ← p.receiveAll signals
  Traced.emit .signalsClosed
  return p

end Pipeline
end MeshExport
