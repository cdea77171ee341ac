import MeshExport.Proofs.Controller.Conservation
import MeshExport.Proofs.Mesh.Dispatch
import MeshExport.Proofs.Trace.Naming

/-! What a controller says of a service names that service: along any run a signal carries the hostname
of its own service, and an error is about the service whose push was skipped. So signals, errors and log
lines about different services differ. -/

namespace MeshExport

theorem Event.faithful_of_plain {cluster : Cluster} {e : Event} (ha : e.attempt? = none)
    (hr : e.received? = none) : e.Faithful cluster := by
  cases e with
  | unresolved service exported error => cases ha
  | pushed signal => cases ha
  | visibilityChanged signal => cases hr
  | _ => trivial

theorem faithful_of_plain {cluster : Cluster} {events : List Event} (ha : attempts events = [])
    (hr : received events = []) : ∀ e ∈ events, e.Faithful cluster := by
  intro e he
  exact Event.faithful_of_plain (List.filterMap_eq_nil_iff.mp ha e he)
    (List.filterMap_eq_nil_iff.mp hr e he)

theorem mem_signals {events : List Event} {signal : Signal} :
    signal ∈ signals events ↔ Event.pushed signal ∈ events := by
  rw [signals, List.mem_filterMap]
  constructor
  · rintro ⟨e, he, hs⟩
    cases e <;> cases hs
    exact he
  · intro h
    exact ⟨_, h, rfl⟩

theorem Directory.eq_unknown_of_resolve {d : Directory} {service : ServiceId} {error : ResolveError}
    (h : d.resolve service = .error error) : error = .unknownService service := by
  unfold resolve at h
  split at h
  · cases h
  · split at h
    · cases h
    · cases h
      rfl

theorem Round.faithful_push {σ : Type} (directory : Directory) (sink : Sink σ) (r : Round σ)
    (slot : Change) : ∀ e ∈ (r.push directory sink slot).events, e.Faithful directory.cluster := by
  have hreceived := received_push directory sink r slot
  unfold push at hreceived ⊢
  cases h : directory.resolve slot.1 with
  | error error =>
    intro e he
    rw [List.mem_singleton.mp he]
    exact Directory.eq_unknown_of_resolve h
  | ok endpoints =>
    rw [h] at hreceived
    obtain ⟨rest, he, hq⟩ := emit_events sink r
      ⟨slot.1, directory.hostname slot.1, endpoints, slot.2⟩
    simp only [he] at hreceived ⊢
    -- the signal is pushed first, and what comes after it tries no push
    refine List.forall_mem_cons.mpr ⟨rfl, faithful_of_plain ?_ hreceived⟩
    rw [attempts_append, written, ExportState.attempts_editAll, hq.attempts]
    rfl

theorem Mesh.faithful_act {σ : Type} (m : Mesh σ) (a : Action σ) :
    ∀ e ∈ (m.act a).events, e.Faithful m.directory.cluster := by
  cases ha : a.isDispatch with
  | false => exact faithful_of_plain (m.attempts_act ha) (m.received_act a)
  | true =>
    cases a with
    | dispatch w sink =>
      have hnothing : ∀ e ∈ ([] : List Event), e.Faithful m.directory.cluster := nofun
      exact Traced.fold_keeps (Round.push m.directory sink)
        (P := fun _ past => ∀ e ∈ past, e.Faithful m.directory.cluster)
        (fun r slot past hp => List.forall_mem_append.mpr
          ⟨hp, Round.faithful_push m.directory sink r slot⟩)
        (a := ⟨m.exports.detach, m.outbox, 0⟩) hnothing (m.batch w)
    | _ => cases ha

theorem Pipeline.events_receiveAll (p : Pipeline) (queue : List Signal) :
    (p.receiveAll queue).events = queue.map .visibilityChanged := by
  unfold receiveAll
  induction queue generalizing p with
  | nil => rfl
  | cons signal queue ih => rw [Traced.fold_cons_events, ih]; rfl

namespace Controller

/-- A controller of `home` after the events `past`, none of which has misnamed a service. -/
structure SpeaksFor (home : Cluster) (c : Controller) (past : List Event) : Prop where
  cluster_eq : c.mesh.directory.cluster = home
  accounted : c.Accounted past
  faithful : ∀ e ∈ past, e.Faithful home

namespace SpeaksFor

variable {home : Cluster} {c : Controller} {past : List Event}

theorem fresh (policy : Policy) (width : Nat) (hash : ServiceId → UInt64) :
    (Controller.fresh policy home (.empty width hash)).SpeaksFor home [] where
  cluster_eq := rfl
  accounted := .fresh policy home width hash
  faithful := by simp

theorem hostname_queued (h : c.SpeaksFor home past) :
    ∀ signal ∈ c.mesh.outbox.queue, signal.hostname = home.hostname signal.service := by
  intro signal hq
  have hs : signal ∈ signals past := by
    rw [h.accounted.carried]
    exact List.mem_append_right _ hq
  exact h.faithful _ (mem_signals.mp hs)

theorem does (h : c.SpeaksFor home past) {x : MeshExport.Action Channel} {a : Action}
    (hd : c.Does (c.act a) (c.mesh.act x)) :
    (c.act a).value.SpeaksFor home (past ++ (c.act a).events) := by
  refine ⟨?_, h.accounted.act a, List.forall_mem_append.mpr ⟨h.faithful, ?_⟩⟩
  · rw [hd.mesh, ← h.cluster_eq]
    exact c.mesh.cluster_run [x]
  · rw [hd.events, ← h.cluster_eq]
    exact c.mesh.faithful_act x

theorem act (h : c.SpeaksFor home past) (a : Action) :
    (c.act a).value.SpeaksFor home (past ++ (c.act a).events) := by
  rcases act_cases c a with ⟨n, rfl⟩ | ⟨x, -, -, hd⟩ | ⟨-, -, hd⟩
  · refine ⟨h.cluster_eq, h.accounted.act _, List.forall_mem_append.mpr ⟨h.faithful, ?_⟩⟩
    have hevents : (c.act (.receive n)).events =
        (c.mesh.outbox.queue.take n).map .visibilityChanged := Pipeline.events_receiveAll ..
    rw [hevents, List.forall_mem_map]
    exact fun signal hs => h.hostname_queued signal (List.mem_of_mem_take hs)
  · exact h.does hd
  · refine ⟨?_, h.accounted.act a, List.forall_mem_append.mpr ⟨h.faithful, ?_⟩⟩
    · rw [hd.mesh]
      exact h.cluster_eq
    · rw [hd.events]
      exact fun e he => absurd he List.not_mem_nil

theorem run (h : c.SpeaksFor home past) (actions : List Action) :
    (c.run actions).value.SpeaksFor home (past ++ (c.run actions).events) :=
  Traced.fold_keeps Controller.act (P := fun c past => c.SpeaksFor home past)
    (fun _ a _ h => h.act a) h actions

end SpeaksFor

/-- Hostnames tell services apart if no namespace has a dot; `namespace/name`, and the error about an
unknown service, if none has a slash. So over any run, signals of different services have different
hostnames, and log lines about the export state or the pushes of different services differ. -/
theorem services_told_apart (policy : Policy) (cluster : Cluster) (width : Nat)
    (hash : ServiceId → UInt64) (actions : List Action) :
    let events := ((Controller.fresh policy cluster (.empty width hash)).run actions).events
    (∀ s t : ServiceId, '.' ∉ s.ns.toList → '.' ∉ t.ns.toList →
      cluster.hostname s = cluster.hostname t → s = t) ∧
    (∀ s t : ServiceId, '/' ∉ s.ns.toList → '/' ∉ t.ns.toList → s.display = t.display → s = t) ∧
    (∀ s t : ServiceId, '/' ∉ s.ns.toList → '/' ∉ t.ns.toList →
      (ResolveError.unknownService s).message = (ResolveError.unknownService t).message → s = t) ∧
    (∀ x ∈ signals events, ∀ y ∈ signals events, '.' ∉ x.service.ns.toList →
      '.' ∉ y.service.ns.toList → x.hostname = y.hostname → x.service = y.service) ∧
    ∀ e ∈ events, ∀ e' ∈ events, ∀ s t, e.subject? = some s → e'.subject? = some t →
      '/' ∉ s.ns.toList → '/' ∉ t.ns.toList → e.logLine.text = e'.logLine.text → s = t := by
  intro events
  have h : SpeaksFor cluster _ events := (SpeaksFor.fresh policy width hash).run actions
  refine ⟨fun s t => cluster.eq_of_hostname, fun s t => NamespacedName.eq_of_display,
    fun s t => ResolveError.eq_of_message, ?_, ?_⟩
  · intro x hx y hy hnx hny hxy
    rw [h.faithful _ (mem_signals.mp hx), h.faithful _ (mem_signals.mp hy)] at hxy
    exact cluster.eq_of_hostname hnx hny hxy
  · intro e he e' he' s t hs ht hns hnt htext
    exact Event.subject_eq_of_text (h.faithful e he) (h.faithful e' he') hs ht hns hnt htext

/-- A service whose name has a dot, beside one that is named by what follows the dot. -/
theorem dotted_name_told_apart :
    let silent : Channel → ExportState → Signal → List Edit := fun _ _ _ => []
    let dotted : ServiceId := ⟨"ns", "a.b"⟩
    let plain : ServiceId := ⟨"ns", "b"⟩
    let known (k : ServiceId) : Action :=
      .services .listed (.event (.apply ⟨{ name := some k.name, ns := some k.ns }, none⟩))
    let events := ((fresh ⟨true, false⟩ .standard (.empty 16 fun _ => 0)).run [known dotted, known plain,
      .edit (.set dotted true), .edit (.set plain true), .dispatch .listed silent]).events
    ∃ x ∈ signals events, ∃ y ∈ signals events, x.service = dotted ∧ y.service = plain ∧
      x.hostname ≠ y.hostname ∧ (Event.pushed x).logLine.text ≠ (Event.pushed y).logLine.text := by
  intro silent dotted plain known events
  obtain ⟨-, -, -, hsignals, hlines⟩ := services_told_apart ⟨true, false⟩ .standard 16 (fun _ => 0)
    [known dotted, known plain, .edit (.set dotted true), .edit (.set plain true),
      .dispatch .listed silent]
  obtain ⟨x, hx, hxs⟩ : ∃ x ∈ signals events, x.service = dotted := by decide +kernel
  obtain ⟨y, hy, hys⟩ : ∃ y ∈ signals events, y.service = plain := by decide +kernel
  have hne : x.service ≠ y.service := by
    rw [hxs, hys]
    decide
  refine ⟨x, hx, y, hy, hxs, hys, fun h => hne ?_, fun h => hne ?_⟩
  · exact hsignals x hx y hy (by rw [hxs]; decide) (by rw [hys]; decide) h
  · exact hlines _ (mem_signals.mp hx) _ (mem_signals.mp hy) _ _ rfl rfl (by rw [hxs]; decide)
      (by rw [hys]; decide) h

end Controller
end MeshExport
