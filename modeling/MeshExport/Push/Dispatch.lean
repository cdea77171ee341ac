import MeshExport.Directory
import MeshExport.Exports.State

/-! Dispatching pending pushes. The slots are detached first, so that changes made while signals are
sent wait for the next round. Then each push of the batch is looked up in the directory and handed to
the sink, which may write export state in turn. -/

namespace MeshExport

structure SinkResponse (σ : Type) where
  state : σ
  /-- Writes of export state, in order. -/
  edits : List Edit := []
  /-- Whether nobody could receive the signal. -/
  lost : Bool := false

abbrev Sink (σ : Type) := σ → ExportState → Signal → SinkResponse σ

structure Round (σ : Type) where
  exports : ExportState
  outbox : σ
  /-- Signals emitted so far. -/
  sent : Nat := 0

namespace ExportState

def detach (e : ExportState) : ExportState := { e with pushes := e.pushes.detach }

def countEmitted (e : ExportState) : ExportState :=
  { e with pushes := { e.pushes with emitted := e.pushes.emitted + 1 } }

def countUnresolved (e : ExportState) : ExportState :=
  { e with pushes := { e.pushes with unresolved := e.pushes.unresolved + 1 } }

end ExportState

namespace Round

variable {σ : Type}

def emit (sink : Sink σ) (r : Round σ) (signal : Signal) : Traced (Round σ) := do
  Traced.emit (.pushed signal)
  let response := sink r.outbox r.exports signal
  let exports ← Traced.fold ExportState.edit r.exports response.edits
  Traced.emitIf response.lost (.dropped signal.service)
  return ⟨exports.countEmitted, response.state, r.sent + 1⟩

def push (directory : Directory) (sink : Sink σ) (r : Round σ) (slot : ServiceId × Bool) :
    Traced (Round σ) :=
  match directory.resolve slot.1 with
  | .error error =>
    ⟨{ r with exports := r.exports.countUnresolved }, [.unresolved slot.1 slot.2 error]⟩
  | .ok endpoints => r.emit sink ⟨slot.1, directory.hostname slot.1, endpoints, slot.2⟩

end Round

/-- A dispatch that walks the pending pushes in the order of `batch`. -/
def dispatchIn {σ : Type} (batch : List (ServiceId × Bool)) (directory : Directory) (sink : Sink σ)
    (e : ExportState) (outbox : σ) : Traced (Round σ) :=
  Traced.fold (Round.push directory sink) ⟨e.detach, outbox, 0⟩ batch

def dispatch {σ : Type} (directory : Directory) (sink : Sink σ) (e : ExportState) (outbox : σ) :
    Traced (Round σ) :=
  dispatchIn e.pushes.slots.toList directory sink e outbox

end MeshExport
