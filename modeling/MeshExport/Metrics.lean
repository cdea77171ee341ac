import MeshExport.Controller

/-! Metrics and their text. Each family has a line of help and one of type, then its samples in
ascending order of their text. The samples of a counter end in `_total`, its help in a full stop. -/

namespace MeshExport

inductive MetricType where
  | counter
  | gauge
deriving DecidableEq

def MetricType.text : MetricType → String
  | counter => "counter"
  | gauge => "gauge"

structure Sample where
  label : Option (String × String)
  value : Nat

structure MetricFamily where
  name : String
  help : String
  type : MetricType
  samples : List Sample

namespace MetricFamily

def sampleText (name : String) (s : Sample) : String :=
  let label :=
    match s.label with
    | none => ""
    | some (key, value) => "\x7b" ++ key ++ "=\"" ++ value ++ "\"\x7d"
  name ++ label ++ " " ++ toString s.value

def sampleName (f : MetricFamily) : String :=
  match f.type with
  | .counter => f.name ++ "_total"
  | .gauge => f.name

def lines (f : MetricFamily) : List String :=
  ("# HELP " ++ f.name ++ " " ++ f.help) :: ("# TYPE " ++ f.name ++ " " ++ f.type.text) ::
    (f.samples.map (sampleText f.sampleName)).mergeSort fun a b => (compare a b).isLE

def counter (name help : String) (value : Nat) : MetricFamily :=
  ⟨name, help ++ ".", .counter, [⟨none, value⟩]⟩

/-- A counter by label; a label that was never counted has no sample. -/
def counters (name help label : String) (values : List (String × Nat)) : MetricFamily :=
  ⟨name, help ++ ".", .counter,
    (values.filter (·.2 ≠ 0)).map fun v => ⟨some (label, v.1), v.2⟩⟩

def gauge (name help : String) (value : Nat) : MetricFamily := ⟨name, help, .gauge, [⟨none, value⟩]⟩

end MetricFamily

def exposition (families : List MetricFamily) : List String :=
  families.flatMap (·.lines) ++ ["# EOF"]

open MetricFamily

def ExportState.metrics (e : ExportState) : List MetricFamily := [
  counter "export_cache_push_signals" "Count of push signals emitted" e.pushes.emitted,
  counter "export_cache_push_coalesced" "Count of transitions folded into an already pending push"
    e.pushes.coalesced,
  counter "export_cache_push_resolve_errors"
    "Count of pushes skipped because the service's endpoints could not be resolved"
    e.pushes.unresolved,
  counters "export_cache_transitions" "Count of changes to a service's exported state" "exported"
    [("false", e.transitions.unexported), ("true", e.transitions.exported)],
  gauge "export_cache_exported_services" "The number of services currently exported"
    e.table.exportedCount,
  gauge "export_cache_pending_pushes" "The number of services with an undispatched push"
    e.pushes.size]

def KindCounts.byName (c : KindCounts) : List (String × Nat) :=
  [Kind.serviceExport, Kind.service, Kind.endpointSlice].map fun k => (k.name, c.get k)

def FeedCounts.metrics (c : FeedCounts) : List MetricFamily := [
  counters "index_applies" "Count of applies to the index" "kind" c.applies.byName,
  counters "index_deletes" "Count of deletes to the index" "kind" c.deletes.byName,
  counters "index_resets" "Count of resets to the index" "kind" c.resets.byName]

def Pipeline.metrics (p : Pipeline) : List MetricFamily :=
  [counter "push_pipeline_signals" "Count of push signals received by the push pipeline" p.delivered]

def Controller.metrics (c : Controller) : List MetricFamily :=
  c.exports.metrics ++ c.counts.metrics ++ c.pipeline.metrics

end MeshExport
