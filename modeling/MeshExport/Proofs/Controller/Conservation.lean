import Mathlib.Data.Set.Card
import MeshExport.Metrics
import MeshExport.Proofs.Controller.Run
import MeshExport.Proofs.Exports.Records
import MeshExport.Proofs.Mesh.Balance

/-! Conservation, from the change of a flag to the pipeline. After any run the counters of an exposition
add up: the changes of flags are the pushes folded, emitted, skipped and pending, and the signals
emitted are those the pipeline received and, behind them, those that are queued. -/

namespace MeshExport

namespace MetricFamily

@[simp] theorem name_counter (name help : String) (value : Nat) :
    (counter name help value).name = name := rfl

@[simp] theorem name_counters (name help label : String) (values : List (String × Nat)) :
    (counters name help label values).name = name := rfl

@[simp] theorem name_gauge (name help : String) (value : Nat) :
    (gauge name help value).name = name := rfl

def total (f : MetricFamily) : Nat := (f.samples.map Sample.value).sum

theorem total_counter (name help : String) (value : Nat) : (counter name help value).total = value :=
  Nat.add_zero _

theorem total_gauge (name help : String) (value : Nat) : (gauge name help value).total = value :=
  Nat.add_zero _

theorem total_counters (name help label : String) (values : List (String × Nat)) :
    (counters name help label values).total = (values.map Prod.snd).sum := by
  induction values with
  | nil => rfl
  | cons v values ih =>
    simp only [counters, total] at ih ⊢
    by_cases hv : v.2 = 0
    · simpa [hv] using ih
    · simpa [hv] using ih

end MetricFamily

/-- How many services have a property, where a list has them all once. -/
theorem encard_eq_length {names : List ServiceId} (hd : names.Nodup) {P : ServiceId → Prop}
    (hm : ∀ k, k ∈ names ↔ P k) : Set.encard {k | P k} = names.length := by
  have hs : {k | P k} = (names.toFinset : Set ServiceId) := by
    ext k
    simp [hm]
  rw [hs, Set.encard_coe_eq_coe_finsetCard, List.toFinset_card_of_nodup hd]

theorem ExportTable.encard_exported (t : ExportTable) :
    Set.encard {k | t.isExported k = true} = t.exportedCount := by
  rw [encard_eq_length t.nodup_exported t.mem_exported, t.length_exported]

namespace Round

variable (directory : Directory) (writes : Channel → ExportState → Signal → List Edit)
  {r : Round Channel}

theorem outbox_push (h : r.outbox.receiver ≠ .closed) (slot : Change) :
    (r.push directory (Channel.writing writes) slot).value.outbox =
      { r.outbox with queue := r.outbox.queue ++ (signalOf directory slot).toList } := by
  rcases push_cases directory (Channel.writing writes) r slot with ⟨error, hs, hp⟩ | ⟨signal, hs, hp⟩
  · rw [hp, hs, Option.toList_none, List.append_nil]
  · rw [hp, hs]
    show r.outbox.send signal = _
    rw [Channel.send, if_neg h]
    rfl

theorem outbox_pushes (h : r.outbox.receiver ≠ .closed) (slots : List Change) :
    (Traced.fold (push directory (Channel.writing writes)) r slots).value.outbox =
      { r.outbox with queue := r.outbox.queue ++ slots.filterMap (signalOf directory) } := by
  induction slots generalizing r with
  | nil => rw [List.filterMap_nil, List.append_nil]; rfl
  | cons slot slots ih =>
    have hp := outbox_push directory writes h slot
    have hr : (r.push directory (Channel.writing writes) slot).value.outbox.receiver ≠ .closed := by
      rwa [hp]
    rw [Traced.fold_cons_value, ih hr, hp, List.append_assoc]
    cases hs : signalOf directory slot with
    | none => rw [List.filterMap_cons_none hs]; rfl
    | some signal => rw [List.filterMap_cons_some hs]; rfl

end Round

namespace Mesh

theorem outbox_act {σ : Type} (m : Mesh σ) {x : Action σ} (hx : x.isDispatch = false) :
    (m.act x).value.outbox = m.outbox := by
  cases x with
  | dispatch w sink => cases hx
  | _ => rfl

theorem encard_pending {σ : Type} (m : Mesh σ) :
    Set.encard {k | (m.exports.pushes.slot? k).isSome} = m.exports.pushes.size := by
  have hm (k : ServiceId) :
      k ∈ (m.batch .listed).map Prod.fst ↔ (m.exports.pushes.slot? k).isSome := by
    rw [Option.isSome_iff_exists, List.mem_map]
    constructor
    · rintro ⟨⟨service, exported⟩, hb, rfl⟩
      exact ⟨exported, (m.mem_batch .listed service exported).mp hb⟩
    · rintro ⟨exported, hs⟩
      exact ⟨(k, exported), (m.mem_batch .listed k exported).mpr hs, rfl⟩
  rw [encard_eq_length (m.nodup_batch .listed) hm, List.length_map, m.length_batch]

theorem outbox_dispatch (m : Mesh Channel) (h : m.outbox.receiver ≠ .closed) (w : Walk Change)
    (writes : Channel → ExportState → Signal → List Edit) :
    let d := m.act (.dispatch w (Channel.writing writes))
    d.value.outbox = { m.outbox with queue := m.outbox.queue ++ signals d.events } := by
  intro d
  have hs : signals d.events = (m.batch w).filterMap (signalOf m.directory) := signals_dispatchIn ..
  rw [hs]
  exact Round.outbox_pushes m.directory writes (r := ⟨m.exports.detach, m.outbox, 0⟩) h (m.batch w)

end Mesh

namespace Pipeline

variable (p : Pipeline) (queue : List Signal)

theorem received_receiveAll : received (p.receiveAll queue).events = queue := by
  have h := Traced.filterMap_events_fold (g := Event.received?) receive (f := fun signal => [signal])
    (fun _ _ => rfl) p queue
  rwa [List.flatMap_singleton'] at h

theorem delivered_receiveAll :
    (p.receiveAll queue).value.delivered = p.delivered + queue.length := by
  induction queue generalizing p with
  | nil => rfl
  | cons signal queue ih =>
    have hr := ih (p.receive signal).value
    rw [List.length_cons, ← Nat.add_assoc, Nat.add_right_comm]
    exact hr

end Pipeline

namespace Controller

/-- The books of the controller after the events `past`. -/
structure Accounted (c : Controller) (past : List Event) : Prop where
  balanced : c.mesh.exports.Balanced 0 past
  receiving : c.mesh.outbox.receiver ≠ .closed
  /-- Signals are received in the order they were emitted; the rest is queued. -/
  carried : signals past = received past ++ c.mesh.outbox.queue
  delivered : c.pipeline.delivered = (received past).length

namespace Accounted

variable {c c' : Controller} {past : List Event}

theorem fresh (policy : Policy) (cluster : Cluster) (width : Nat) (hash : ServiceId → UInt64) :
    (Controller.fresh policy cluster (.empty width hash)).Accounted [] where
  balanced := ⟨rfl, rfl, rfl⟩
  receiving := by intro h; cases h
  carried := rfl
  delivered := rfl

/-- A step of the mesh that queues the signals it emits and receives nothing. -/
theorem step (h : c.Accounted past) {r : Traced Controller} {t : Traced (Mesh Channel)}
    (hd : c.Does r t) (hb : t.value.exports.Balanced 0 (past ++ t.events))
    (hr : received t.events = [])
    (ho : t.value.outbox =
      { c.mesh.outbox with queue := c.mesh.outbox.queue ++ signals t.events }) :
    r.value.Accounted (past ++ r.events) := by
  obtain ⟨hmesh, hevents, hpipeline⟩ := hd
  refine ⟨?_, ?_, ?_, ?_⟩
  · rwa [hmesh, hevents]
  · rw [hmesh, ho]
    exact h.receiving
  · rw [hmesh, hevents, ho, signals_append, received_append, h.carried, hr, List.append_nil,
      List.append_assoc]
  · rw [hpipeline, hevents, received_append, hr, List.append_nil, h.delivered]

theorem receive (h : c.Accounted past) (n : Nat) :
    (c.receive n).value.Accounted (past ++ (c.receive n).events) := by
  have hevents : (c.receive n).events = (c.pipeline.receiveAll (c.mesh.outbox.queue.take n)).events :=
    rfl
  have hreceived : received (c.receive n).events = c.mesh.outbox.queue.take n := by
    rw [hevents, Pipeline.received_receiveAll]
  have hattempts : attempts (c.receive n).events = [] := (c.quiet_receive n).attempts
  refine ⟨h.balanced.quiet (c.quiet_receive n), (fun hc => by cases hc), ?_, ?_⟩
  · rw [signals_append, received_append, signals_eq_nil hattempts, hreceived, List.append_nil,
      List.append_assoc, h.carried]
    exact congrArg _ (List.take_append_drop n _).symm
  · rw [received_append, hreceived, List.length_append, ← h.delivered]
    exact Pipeline.delivered_receiveAll c.pipeline _

theorem act (h : c.Accounted past) (a : Action) :
    (c.act a).value.Accounted (past ++ (c.act a).events) := by
  rcases act_cases c a with ⟨n, rfl⟩ | ⟨x, hx, hxa, hd⟩ | ⟨-, -, hd⟩
  · exact h.receive n
  · refine h.step hd (Mesh.balanced_act h.balanced x) (c.mesh.received_act x) ?_
    cases ha : a.isDispatch with
    | false =>
      rw [ha] at hxa
      rw [c.mesh.outbox_act hxa, signals_eq_nil (c.mesh.attempts_act hxa), List.append_nil]
    | true =>
      cases a with
      | dispatch w writes =>
        cases hx
        exact c.mesh.outbox_dispatch h.receiving w writes
      | _ => cases ha
  · refine h.step hd (h.balanced.quiet .nil) rfl ?_
    rw [Traced.pure_events]
    exact congrArg (Channel.mk · _) (List.append_nil _).symm

theorem run (h : c.Accounted past) (actions : List Action) :
    (c.run actions).value.Accounted (past ++ (c.run actions).events) :=
  Traced.fold_keeps Controller.act (P := fun c past => c.Accounted past) (fun _ a _ h => h.act a) h
    actions

end Accounted

/-- What an exposition reads for a family, over all its labels. -/
def reading (c : Controller) (name : String) : Nat :=
  ((c.metrics.filter (·.name = name)).map MetricFamily.total).sum

theorem readings (c : Controller) :
    c.reading "export_cache_push_signals" = c.exports.pushes.emitted ∧
      c.reading "export_cache_push_coalesced" = c.exports.pushes.coalesced ∧
      c.reading "export_cache_push_resolve_errors" = c.exports.pushes.unresolved ∧
      c.reading "export_cache_transitions" = c.exports.changes ∧
      c.reading "export_cache_exported_services" = c.exports.table.exportedCount ∧
      c.reading "export_cache_pending_pushes" = c.exports.pushes.size ∧
      c.reading "push_pipeline_signals" = c.pipeline.delivered := by
  have hchanges : c.exports.transitions.unexported + c.exports.transitions.exported =
      c.exports.changes := Nat.add_comm ..
  simp [reading, metrics, ExportState.metrics, FeedCounts.metrics, Pipeline.metrics,
    MetricFamily.total_counter, MetricFamily.total_counters, MetricFamily.total_gauge, hchanges]

/-- After any run from the start, the log tells the changes that the table has reported, and each of them
is counted; the changes are the pushes folded, emitted, skipped and pending; the signals emitted are those
the pipeline received, in the order they were emitted, and then those that are queued, and both are
counted; and the gauges read how many services are exported and how many have a pending push. -/
theorem changes_conserved (policy : Policy) (cluster : Cluster) (width : Nat)
    (hash : ServiceId → UInt64) (actions : List Action) :
    let start := fresh policy cluster (.empty width hash)
    let past := start.run actions
    let changes := start.changes actions
    let c := past.value
    let queue := c.mesh.outbox.queue
    reported past.events = changes ∧
      c.reading "export_cache_transitions" = changes.length ∧
      c.reading "export_cache_transitions" =
        c.reading "export_cache_push_coalesced" + c.reading "export_cache_push_signals" +
          c.reading "export_cache_push_resolve_errors" + c.exports.pushes.size ∧
      signals past.events = received past.events ++ queue ∧
      c.reading "export_cache_push_signals" = (received past.events).length + queue.length ∧
      c.reading "push_pipeline_signals" = (received past.events).length ∧
      Set.encard {service | c.exports.isExported service = true} =
        c.reading "export_cache_exported_services" ∧
      Set.encard {service | (c.exports.pushes.slot? service).isSome} =
        c.reading "export_cache_pending_pushes" := by
  intro start past changes c queue
  have hc : c.Accounted past.events := (Accounted.fresh policy cluster width hash).run actions
  obtain ⟨hreported, hchanges, hemitted⟩ := hc.balanced
  obtain ⟨hsignals, hfolded, hskipped, hread, hexported, hpending, hdelivered⟩ := c.readings
  rw [hsignals, hfolded, hskipped, hread, hexported, hpending, hdelivered]
  have hlog : reported past.events = changes := start.reported_run actions
  rw [hlog] at hreported
  refine ⟨hlog, hreported, hchanges, hc.carried, ?_, hc.delivered, c.exports.table.encard_exported,
    c.mesh.encard_pending⟩
  rw [← List.length_append, ← hc.carried]
  exact hemitted

end Controller
end MeshExport
