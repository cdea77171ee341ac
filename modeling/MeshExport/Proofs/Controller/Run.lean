import MeshExport.Controller
import MeshExport.Proofs.Mesh.Run

/-! Runs of the controller: watch events and calls of each kind, writes of export state, dispatches
whose sink may write export state in turn, and the pipeline receiving signals, in any order. An action
comes down to one of the mesh, or leaves the mesh alone, or is the pipeline's. -/

namespace MeshExport

def Channel.writing (writes : Channel → ExportState → Signal → List Edit) : Sink Channel :=
  fun c e signal => { Channel.sink c e signal with edits := writes c e signal }

inductive Input (ρ : Type) where
  | call (call : FeedCall ρ)
  | event (event : WatchEvent ρ)

/-- The call that comes of an input. A watch keeps the events of a relist to itself, and makes nothing
of an object it cannot name, nor of any event once it has ended. -/
def Input.call? {ρ : Type} [Resource ρ] (task : WatchTask ρ) : Input ρ → Option (FeedCall ρ)
  | .call fc => some fc
  | .event e =>
    match task with
    | .ended => none
    | .running loop =>
      match loop.step e with
      | .error _ => none
      | .ok (_, fc?) => fc?

theorem Feed.run_within {σ τ ρ : Type} (f : Feed σ ρ) (part : τ → σ) (replace : τ → σ → τ) (t : τ)
    (call : FeedCall ρ) :
    (f.within part replace).run t call = (f.run (part t) call).map (replace t) := by
  cases call <;> rfl

def FeedCounts.count {ρ : Type} [Resource ρ] (counts : FeedCounts) : FeedCall ρ → FeedCounts
  | .apply _ => { counts with applies := counts.applies.count (Resource.kind ρ) }
  | .delete _ => { counts with deletes := counts.deletes.count (Resource.kind ρ) }
  | .reset _ _ => { counts with resets := counts.resets.count (Resource.kind ρ) }

theorem Feed.run_counted {σ ρ : Type} [Resource ρ] (f : Feed σ ρ) (s : FeedCounts × σ)
    (call : FeedCall ρ) : f.counted.run s call = (f.run s.2 call).map (s.1.count call, ·) := by
  cases call <;> rfl

namespace Controller

/-- The feeds are named with the order in which a reset walks the removed names, a dispatch with the
order in which it walks the pending pushes, and with what its sink writes. -/
inductive Action where
  | exports (w : Walk NamespacedName) (input : Input ServiceExport)
  | services (w : Walk NamespacedName) (input : Input Service)
  | slices (w : Walk NamespacedName) (input : Input EndpointSlice)
  | edit (x : Edit)
  | dispatch (w : Walk Change) (writes : Channel → ExportState → Signal → List Edit)
  | receive (n : Nat)

def Action.isDispatch : Action → Bool
  | .dispatch _ _ => true
  | _ => false

def put {ρ : Type} [Source ρ] (f : Feed (Mesh Channel) ρ) (c : Controller) :
    Input ρ → Traced Controller
  | .call fc => ((counted f).run c fc).traced
  | .event e =>
    match (Source.task c.watches).take (counted f) c e with
    | none => pure c
    | some w =>
      (fun c => { c with watches := Source.withTask c.watches w.task }) <$> w.outcome.traced

/-- The pipeline receives the `n` oldest signals, or all if there are fewer. -/
def receive (n : Nat) (c : Controller) : Traced Controller :=
  let channel := c.mesh.outbox
  (fun pipeline =>
    { c.withChannel ⟨channel.queue.drop n, .pipeline⟩ with pipeline }) <$>
    c.pipeline.receiveAll (channel.queue.take n)

def exportsIn (w : Walk NamespacedName) : Feed (Mesh Channel) ServiceExport :=
  (ExportState.exportFeed.walking w).within Mesh.exports fun m exports => { m with exports }

def servicesIn (w : Walk NamespacedName) : Feed (Mesh Channel) Service :=
  (Directory.serviceFeed.walking w).within Mesh.directory fun m directory => { m with directory }

def slicesIn (w : Walk NamespacedName) : Feed (Mesh Channel) EndpointSlice :=
  (Directory.sliceFeed.walking w).within Mesh.directory fun m directory => { m with directory }

def act (c : Controller) : Action → Traced Controller
  | .exports w input => c.put (exportsIn w) input
  | .services w input => c.put (servicesIn w) input
  | .slices w input => c.put (slicesIn w) input
  | .edit x => c.edit x
  | .dispatch w writes =>
    (fun r => c.withMesh r.1) <$> c.mesh.dispatchIn (c.mesh.batch w) (Channel.writing writes)
  | .receive n => c.receive n

def run (c : Controller) (actions : List Action) : Traced Controller := Traced.fold act c actions

theorem quiet_receive (c : Controller) (n : Nat) : Quiet (c.receive n).events :=
  Traced.fold_keeps Pipeline.receive (P := fun _ past => Quiet past)
    (fun _ _ _ hp => hp.append (.singleton rfl rfl)) .nil (c.mesh.outbox.queue.take n)

/-! The operations of the controller are such actions. -/

theorem put_call {ρ : Type} [Source ρ] {f : Feed (Mesh Channel) ρ} (hf : Source.feed = counted f)
    (c : Controller) (call : FeedCall ρ) : c.put f (.call call) = (c.call call).traced := by
  rw [Controller.call, hf, put]

theorem put_event {ρ : Type} [Source ρ] {f : Feed (Mesh Channel) ρ} (hf : Source.feed = counted f)
    (c : Controller) (event : WatchEvent ρ) :
    c.put f (.event event) = (c.watch event).elim (pure c) Outcome.traced := by
  rw [watch, hf, put]
  cases (Source.task c.watches).take (counted f) c event <;> rfl

/-- The feeds of the controller are those that walk the names as a table lists them. -/
theorem feeds_listed :
    (Source.feed : Feed Controller ServiceExport) = counted (exportsIn .listed) ∧
      (Source.feed : Feed Controller Service) = counted (servicesIn .listed) ∧
      (Source.feed : Feed Controller EndpointSlice) = counted (slicesIn .listed) := by
  simp only [exportsIn, servicesIn, slicesIn, Feed.walking_listed]
  exact ⟨rfl, rfl, rfl⟩

/-- A dispatch of the controller lets its rules write. -/
theorem act_dispatch (c : Controller) :
    c.act (.dispatch .listed fun _ _ signal =>
      (c.rules.filter fun r => r.service = signal.service).map fun r => .set r.target r.exported) =
      Prod.fst <$> c.dispatch :=
  rfl

theorem consume_eq_receive (c : Controller) (h : c.mesh.outbox.receiver ≠ .closed) :
    c.consume = some (c.receive c.mesh.outbox.queue.length) := by
  rw [consume, if_neg h, receive, List.take_length, List.drop_length]
  rfl

/-! What an action does to the mesh. -/

/-- The result `r` is that of `t` on the mesh, and the pipeline has not moved. -/
structure Does (c : Controller) (r : Traced Controller) (t : Traced (Mesh Channel)) : Prop where
  mesh : r.value.mesh = t.value
  events : r.events = t.events
  pipeline : r.value.pipeline = c.pipeline

theorem run_counted {ρ : Type} [Resource ρ] (f : Feed (Mesh Channel) ρ) (c : Controller)
    (call : FeedCall ρ) :
    (counted f).run c call =
      (f.run c.mesh call).map fun mesh => { c with counts := c.counts.count call, mesh } := by
  rw [counted, Feed.run_within, Feed.run_counted]
  rfl

/-- An input does what the call that comes of it does, and nothing if none does. -/
theorem does_put {ρ : Type} [Source ρ] (f : Feed (Mesh Channel) ρ) (c : Controller)
    (input : Input ρ) :
    c.Does (c.put f input)
      ((input.call? (Source.task c.watches)).elim (pure c.mesh) fun fc => (f.run c.mesh fc).traced) := by
  cases input with
  | call fc =>
    rw [put, run_counted]
    exact ⟨rfl, rfl, rfl⟩
  | event e =>
    cases ht : (Source.task c.watches : WatchTask ρ) with
    | ended =>
      simp only [put, ht, WatchTask.take]
      exact ⟨rfl, rfl, rfl⟩
    | running loop =>
      simp only [put, ht, WatchTask.take, Input.call?]
      rcases loop.step e with fault | ⟨next, _ | fc⟩
      · exact ⟨rfl, rfl, rfl⟩
      · exact ⟨rfl, rfl, rfl⟩
      · simp only [run_counted]
        exact ⟨rfl, rfl, rfl⟩

theorem run_exportsIn (w : Walk NamespacedName) (m : Mesh Channel) (fc : FeedCall ServiceExport) :
    ((exportsIn w).run m fc).traced = m.act (.exports w fc) := by
  rw [exportsIn, Feed.run_within]
  rfl

theorem run_servicesIn (w : Walk NamespacedName) (m : Mesh Channel) (fc : FeedCall Service) :
    ((servicesIn w).run m fc).traced = m.act (.directory (.service w fc)) := by
  rw [servicesIn, Feed.run_within]
  rfl

theorem run_slicesIn (w : Walk NamespacedName) (m : Mesh Channel) (fc : FeedCall EndpointSlice) :
    ((slicesIn w).run m fc).traced = m.act (.directory (.slice w fc)) := by
  rw [slicesIn, Feed.run_within]
  rfl

/-- The action of the mesh that an action comes down to, unless it comes to nothing there. -/
def onMesh (c : Controller) : Action → Option (MeshExport.Action Channel)
  | .exports w input => (input.call? (Source.task c.watches)).map (.exports w)
  | .services w input =>
    (input.call? (Source.task c.watches)).map fun call => .directory (.service w call)
  | .slices w input =>
    (input.call? (Source.task c.watches)).map fun call => .directory (.slice w call)
  | .edit x => some (.edit x)
  | .dispatch w writes => some (.dispatch w (Channel.writing writes))
  | .receive _ => none

theorem isDispatch_onMesh {c : Controller} {a : Action} {x : MeshExport.Action Channel}
    (h : c.onMesh a = some x) : x.isDispatch = a.isDispatch := by
  cases a with
  | exports w input =>
    obtain ⟨call, -, rfl⟩ := Option.map_eq_some_iff.mp h
    rfl
  | services w input =>
    obtain ⟨call, -, rfl⟩ := Option.map_eq_some_iff.mp h
    rfl
  | slices w input =>
    obtain ⟨call, -, rfl⟩ := Option.map_eq_some_iff.mp h
    rfl
  | edit x =>
    cases h
    rfl
  | dispatch w writes =>
    cases h
    rfl
  | receive n => cases h

theorem does_act (c : Controller) {a : Action} (ha : ∀ n, a ≠ .receive n) :
    c.Does (c.act a) ((c.onMesh a).elim (pure c.mesh) c.mesh.act) := by
  cases a with
  | exports w input =>
    have hd := does_put (exportsIn w) c input
    simp only [run_exportsIn] at hd
    rwa [onMesh, Option.elim_map]
  | services w input =>
    have hd := does_put (servicesIn w) c input
    simp only [run_servicesIn] at hd
    rwa [onMesh, Option.elim_map]
  | slices w input =>
    have hd := does_put (slicesIn w) c input
    simp only [run_slicesIn] at hd
    rwa [onMesh, Option.elim_map]
  | edit x => exact ⟨rfl, rfl, rfl⟩
  | dispatch w writes => exact ⟨rfl, rfl, rfl⟩
  | receive n => exact absurd rfl (ha n)

/-- The pipeline receives, or an action comes down to one of the mesh, or to nothing. -/
theorem act_cases (c : Controller) (a : Action) :
    (∃ n, a = .receive n) ∨
      (∃ x, c.onMesh a = some x ∧ x.isDispatch = a.isDispatch ∧ c.Does (c.act a) (c.mesh.act x)) ∨
      (c.onMesh a = none ∧ a.isDispatch = false ∧ c.Does (c.act a) (pure c.mesh)) := by
  by_cases hr : ∃ n, a = .receive n
  · exact .inl hr
  · have hd := c.does_act fun n hn => hr ⟨n, hn⟩
    cases hx : c.onMesh a with
    | none =>
      rw [hx] at hd
      refine .inr (.inr ⟨rfl, ?_, hd⟩)
      cases a <;> first | rfl | cases hx
    | some x =>
      rw [hx] at hd
      exact .inr (.inl ⟨x, rfl, isDispatch_onMesh hx, hd⟩)

def changesOf (c : Controller) (a : Action) : List Change := (c.onMesh a).elim [] c.mesh.changesOf

def changes (c : Controller) : List Action → List Change
  | [] => []
  | a :: as => c.changesOf a ++ (c.act a).value.changes as

/-- The log of an action tells the changes that the table reports for its writes. -/
theorem reported_act (c : Controller) (a : Action) : reported (c.act a).events = c.changesOf a := by
  rcases act_cases c a with ⟨n, rfl⟩ | ⟨x, hx, -, hd⟩ | ⟨hx, -, hd⟩
  · exact (c.quiet_receive n).reported
  · rw [hd.events, c.mesh.reported_act, changesOf, hx]
    rfl
  · rw [hd.events, changesOf, hx]
    rfl

theorem reported_run (c : Controller) (actions : List Action) :
    reported (c.run actions).events = c.changes actions := by
  induction actions generalizing c with
  | nil => rfl
  | cons a as ih => rw [run, Traced.fold_cons_events, reported_append, reported_act, ← run, ih, changes]

theorem kept_act {P : ExportState → Prop} (h : ExportState.Kept P) {c : Controller} (hc : P c.exports)
    (a : Action) : P (c.act a).value.exports := by
  rcases act_cases c a with ⟨n, rfl⟩ | ⟨x, -, -, hd⟩ | ⟨-, -, hd⟩
  · exact hc
  · rw [Controller.exports, hd.mesh]
    exact Mesh.kept_act h hc x
  · rw [Controller.exports, hd.mesh]
    exact hc

end Controller
end MeshExport
