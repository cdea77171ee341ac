import MeshExport.Push.Dispatch

/-! The dispatcher: a task that sleeps until a push is asked for, dispatches, and sleeps again. -/

namespace MeshExport

namespace ExportState

def withWake (e : ExportState) (wake : Wake) : ExportState :=
  { e with pushes := { e.pushes with wake } }

def dispatcherWoken (e : ExportState) : Bool := e.pushes.wake.dispatcher == .notified

def stopDispatcher (e : ExportState) : ExportState := e.withWake e.pushes.wake.stop

end ExportState

namespace Dispatcher

variable {σ : Type}

def round (directory : Directory) (sink : Sink σ) (e : ExportState) (outbox : σ) :
    Traced (ExportState × σ) := do
  let r ← dispatch directory sink e outbox
  Traced.emit (.dispatched r.sent)
  return (r.exports, r.outbox)

/-- Runs until the dispatcher has to wait, taking a permit before each round. After `rounds` rounds it
yields with a round still owed to it. -/
def settle (directory : Directory) (sink : Sink σ) :
    Nat → ExportState × σ → Traced (ExportState × σ)
  | rounds, (e, outbox) =>
    if e.pushes.wake.permit then
      match rounds with
      | 0 => pure (e.withWake ⟨false, .notified⟩, outbox)
      | rounds + 1 => do
        let next ← round directory sink (e.withWake ⟨false, .idle⟩) outbox
        settle directory sink rounds next
    else pure (e.withWake ⟨false, .waiting⟩, outbox)

/-- Lets the dispatcher run, starting it if need be. One that waits and was not woken does nothing. -/
def poll (directory : Directory) (sink : Sink σ) (rounds : Nat) (e : ExportState) (outbox : σ) :
    Traced (ExportState × σ) :=
  match e.pushes.wake.dispatcher with
  | .waiting => pure (e, outbox)
  | .idle => settle directory sink rounds (e, outbox)
  | .notified => do
    let next ← round directory sink (e.withWake ⟨e.pushes.wake.permit, .idle⟩) outbox
    settle directory sink rounds next

end Dispatcher
end MeshExport
