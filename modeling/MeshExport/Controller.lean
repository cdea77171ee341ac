import MeshExport.Feed.Counted
import MeshExport.Feed.Watch
import MeshExport.Mesh
import MeshExport.Push.Channel

/-! The assembled controller: the feeds with counted calls, a watch for each kind of resource, the
dispatcher, and the push pipeline at the end of the channel. -/

namespace MeshExport

structure Watches where
  exports : WatchTask ServiceExport := .running {}
  services : WatchTask Service := .running {}
  slices : WatchTask EndpointSlice := .running {}

structure Controller where
  mesh : Mesh Channel
  rules : List PushRule := []
  counts : FeedCounts := {}
  pipeline : Pipeline := {}
  watches : Watches := {}

namespace Controller

def fresh (policy : Policy) (cluster : Cluster) (table : ExportTable) : Controller where
  mesh := Mesh.fresh policy cluster table {}

def exports (c : Controller) : ExportState := c.mesh.exports

def sink (c : Controller) : Sink Channel := Channel.sinkWith c.rules

def counted {ρ : Type} [Resource ρ] (f : Feed (Mesh Channel) ρ) : Feed Controller ρ :=
  f.counted.within (fun c => (c.counts, c.mesh)) fun c p => { c with counts := p.1, mesh := p.2 }

class Source (ρ : Type) extends Resource ρ where
  feed : Feed Controller ρ
  task : Watches → WatchTask ρ
  withTask : Watches → WatchTask ρ → Watches

instance : Source ServiceExport where
  feed := counted Mesh.exportFeed
  task w := w.exports
  withTask w t := { w with exports := t }

instance : Source Service where
  feed := counted Mesh.serviceFeed
  task w := w.services
  withTask w t := { w with services := t }

instance : Source EndpointSlice where
  feed := counted Mesh.sliceFeed
  task w := w.slices
  withTask w t := { w with slices := t }

section source

variable {ρ : Type} [Source ρ]

def call (c : Controller) (call : FeedCall ρ) : Outcome Controller := Source.feed.run c call

/-- An event for the watch of a kind; nothing if the watch has ended. -/
def watch (c : Controller) (event : WatchEvent ρ) : Option (Outcome Controller) :=
  ((Source.task c.watches).take Source.feed c event).map fun w =>
    w.outcome.map fun c => { c with watches := Source.withTask c.watches w.task }

end source

def withMesh (c : Controller) (mesh : Mesh Channel) : Controller := { c with mesh }

def set (c : Controller) (service : ServiceId) (exported : Bool) : Traced (Controller × Bool) :=
  (fun r => (c.withMesh r.1, r.2)) <$> c.mesh.set service exported

def edit (c : Controller) (e : Edit) : Traced Controller := c.withMesh <$> c.mesh.edit e

def request (c : Controller) (service : ServiceId) (exported : Bool) : Traced Controller :=
  c.withMesh <$> c.mesh.request service exported

def dispatch (c : Controller) : Traced (Controller × Nat) :=
  (fun r => (c.withMesh r.1, r.2)) <$> c.mesh.dispatch c.sink

/-- Lets the dispatcher run until it waits, or for `rounds` rounds. -/
def poll (rounds : Nat) (c : Controller) : Traced Controller :=
  c.withMesh <$> c.mesh.poll c.sink rounds

def stopDispatcher (c : Controller) : Controller := c.withMesh c.mesh.stopDispatcher

def withChannel (c : Controller) (outbox : Channel) : Controller :=
  c.withMesh { c.mesh with outbox }

def close (c : Controller) : Controller := c.withChannel c.mesh.outbox.close

/-- Takes the signals no pipeline has claimed, ordered by service. -/
def takeSignals (c : Controller) : Option (List Signal) × Controller :=
  if c.mesh.outbox.receiver = .unclaimed then
    let (signals, channel) := c.mesh.outbox.drain
    (some (Signal.sort signals), c.withChannel channel)
  else (none, c)

/-- Whether the pipeline runs and a signal has arrived since it last did. -/
def pipelineWoken (c : Controller) : Bool :=
  c.mesh.outbox.receiver == .pipeline && !c.mesh.outbox.queue.isEmpty

/-- Lets the pipeline run, starting it if need be; nothing if the receiver is gone. -/
def consume (c : Controller) : Option (Traced Controller) :=
  if c.mesh.outbox.receiver = .closed then none
  else
    let (signals, channel) := c.mesh.outbox.drain
    some <| (fun pipeline => { c.withChannel { channel with receiver := .pipeline } with pipeline }) <$>
      c.pipeline.receiveAll signals

end Controller
end MeshExport
