import MeshExport.Proofs.Controller.Run
import MeshExport.Proofs.Mesh.Visibility

/-! What a policy decides: the answers about visibility, and nothing else. Two controllers that differ in
their policy alone go on to differ in nothing but that, as long as no sink acts on what is visible; and
where a policy does not honour exports, the answers are as if there were none. -/

namespace MeshExport

namespace ExportState

def under (policy : Policy) (e : ExportState) : ExportState := { e with policy }

variable (policy : Policy) (e : ExportState)

@[simp] theorem table_under : (e.under policy).table = e.table := rfl

/-- Writes do not ask for the policy. -/
theorem edit_under (x : Edit) : (e.under policy).edit x = under policy <$> e.edit x := by
  have hset (service : ServiceId) (exported : Bool) :
      (e.under policy).set service exported =
        (fun r => (r.1.under policy, r.2)) <$> e.set service exported := by
    by_cases h : (e.table.set service exported).2 = true <;>
      simp only [set, table_under, h, reduceIte] <;> rfl
  cases x with
  | set service exported => rw [edit, hset]; rfl
  | created service =>
    rw [edit, created, hset]
    rfl
  | deleted service =>
    by_cases h : (e.table.remove service).2 = true <;>
      simp only [edit, deleted, table_under, h, reduceIte] <;> rfl

theorem exportFeed_under : exportFeed.Commutes (under policy) where
  apply e x := by
    simp only [exportFeed, applyExport]
    split
    · rfl
    · rfl
    · exact congrArg Outcome.ofTraced (edit_under policy e (.created _))
  delete e name := edit_under policy e (.deleted name)
  reset _ _ _ := rfl

end ExportState

/-- What the sink does with a signal does not hang on the policy. -/
def Sink.Blind {σ : Type} (sink : Sink σ) : Prop :=
  ∀ policy outbox e signal, sink outbox (ExportState.under policy e) signal = sink outbox e signal

namespace Round

variable {σ : Type}

def under (policy : Policy) (r : Round σ) : Round σ :=
  { r with exports := r.exports.under policy }

theorem emit_under (policy : Policy) {sink : Sink σ} (hs : sink.Blind) (r : Round σ)
    (signal : Signal) : (r.under policy).emit sink signal = under policy <$> r.emit sink signal := by
  have hresponse : sink (r.under policy).outbox (r.under policy).exports signal =
      sink r.outbox r.exports signal := hs policy r.outbox r.exports signal
  have hwrites (edits : List Edit) : Traced.fold ExportState.edit (r.under policy).exports edits =
      ExportState.under policy <$> Traced.fold ExportState.edit r.exports edits :=
    Traced.fold_hom (fun x _ e => e.edit_under policy x) r.exports
  simp only [emit, hresponse, hwrites]
  rfl

theorem push_under (policy : Policy) (directory : Directory) {sink : Sink σ} (hs : sink.Blind)
    (r : Round σ) (slot : Change) :
    (r.under policy).push directory sink slot = under policy <$> r.push directory sink slot := by
  cases hresolved : directory.resolve slot.1 with
  | error error =>
    simp only [push, hresolved]
    rfl
  | ok endpoints =>
    simp only [push, hresolved]
    exact emit_under policy hs r _

end Round

namespace Mesh

variable {σ : Type}

def under (policy : Policy) (m : Mesh σ) : Mesh σ := { m with exports := m.exports.under policy }

theorem dispatchIn_under (policy : Policy) (batch : List Change) {sink : Sink σ} (hs : sink.Blind)
    (m : Mesh σ) :
    (m.under policy).dispatchIn batch sink =
      (fun r => (r.1.under policy, r.2)) <$> m.dispatchIn batch sink := by
  have hround : MeshExport.dispatchIn batch m.directory sink (m.exports.under policy) m.outbox =
      Round.under policy <$> MeshExport.dispatchIn batch m.directory sink m.exports m.outbox :=
    Traced.fold_hom (fun slot _ r => Round.push_under policy m.directory hs r slot)
      ⟨m.exports.detach, m.outbox, 0⟩
  simp only [dispatchIn, under, hround]
  rfl

end Mesh

namespace Controller

def under (policy : Policy) (c : Controller) : Controller := c.withMesh (c.mesh.under policy)

def Action.Blind : Action → Prop
  | .dispatch _ writes => (Channel.writing writes).Blind
  | _ => True

theorem put_under {ρ : Type} [Source ρ] {f : Feed (Mesh Channel) ρ} {policy : Policy}
    (hf : ∀ m call, f.run (m.under policy) call = (f.run m call).map (Mesh.under policy))
    (c : Controller) (input : Input ρ) :
    (c.under policy).put f input = under policy <$> c.put f input := by
  have hmesh (call : FeedCall ρ) :
      f.run (c.under policy).mesh call = (f.run c.mesh call).map (Mesh.under policy) := hf c.mesh call
  cases input with
  | call call =>
    rw [put, put, run_counted, run_counted, hmesh]
    rfl
  | event event =>
    -- which call comes of an event hangs on the watch alone
    cases ht : (Source.task c.watches : WatchTask ρ) with
    | ended =>
      have ht' : (Source.task (c.under policy).watches : WatchTask ρ) = .ended := ht
      simp only [put, ht, ht', WatchTask.take]
      rfl
    | running loop =>
      have ht' : (Source.task (c.under policy).watches : WatchTask ρ) = .running loop := ht
      simp only [put, ht, ht', WatchTask.take]
      rcases loop.step event with fault | ⟨next, _ | call⟩
      · rfl
      · rfl
      · simp only [run_counted, hmesh]
        rfl

theorem act_under (policy : Policy) (c : Controller) {a : Action} (ha : a.Blind) :
    (c.under policy).act a = under policy <$> c.act a := by
  cases a with
  | exports w input =>
    refine put_under (fun m call => ?_) c input
    rw [exportsIn, Feed.run_within, Feed.run_within]
    exact congrArg (Outcome.map _) ((ExportState.exportFeed_under policy).run w m.exports call)
  | services w input =>
    refine put_under (fun m call => ?_) c input
    rw [servicesIn, Feed.run_within, Feed.run_within]
    rfl
  | slices w input =>
    refine put_under (fun m call => ?_) c input
    rw [slicesIn, Feed.run_within, Feed.run_within]
    rfl
  | edit x =>
    exact congrArg (fun t => c.withMesh <$> (fun exports => { c.mesh with exports }) <$> t)
      (c.mesh.exports.edit_under policy x)
  | dispatch w writes =>
    exact congrArg (fun t => (fun r : Mesh Channel × Nat => c.withMesh r.1) <$> t)
      (Mesh.dispatchIn_under policy (c.mesh.batch w) ha c.mesh)
  | receive n => rfl

theorem run_under (policy : Policy) (c : Controller) {actions : List Action}
    (ha : ∀ a ∈ actions, a.Blind) :
    (c.under policy).run actions = under policy <$> c.run actions :=
  Traced.fold_hom (fun a hm c => act_under policy c (ha a hm)) c

theorem policy_run (c : Controller) (actions : List Action) :
    (c.run actions).value.exports.policy = c.exports.policy :=
  Traced.fold_keeps_value act (P := fun c' => c'.exports.policy = c.exports.policy)
    (fun _ a hc => kept_act (ExportState.kept_policy c.exports.policy) hc a) rfl actions

def Action.isExport : Action → Bool
  | .exports _ _ => true
  | .edit _ => true
  | _ => false

/-- Two controllers that start under different policies and take the same actions, where no sink acts on
what is visible, differ in their policy alone after every step. Under a policy that does not honour
exports, the answers about visibility after a run are those after the same run without its exports. And
where a service is exported, what a proxy discovers of given endpoints has in it, in the same order, what
it discovers after any other run under that policy, be the service exported there or not. -/
theorem policy_decides_visibility_alone (cluster : Cluster) (width : Nat) (hash : ServiceId → UInt64)
    (actions : List Action) :
    let start (policy : Policy) := fresh policy cluster (.empty width hash)
    ((∀ a ∈ actions, a.Blind) → ∀ (policy policy' : Policy) (n : Nat),
        (start policy').run (actions.take n) = under policy' <$> (start policy).run (actions.take n)) ∧
      (∀ policy : Policy, policy.discoveryEnabled = false ∨ policy.clusterLocal = true →
        let e := ((start policy).run actions).value.exports
        let e' := ((start policy).run (actions.filter fun a => !a.isExport)).value.exports
        (∀ endpoint proxy, e.shows endpoint proxy = e'.shows endpoint proxy) ∧
          ∀ service endpoints proxy,
            e.discoverable service endpoints proxy = e'.discoverable service endpoints proxy) ∧
      ∀ (policy : Policy) (actions' : List Action) (service : ServiceId) (endpoints : List Endpoint)
        (proxy : Proxy),
        let e := ((start policy).run actions).value.exports
        let e' := ((start policy).run actions').value.exports
        e.isExported service = true →
          (e'.discoverable service endpoints proxy).Sublist (e.discoverable service endpoints proxy) := by
  intro start
  have hpolicy (policy : Policy) (actions : List Action) :
      ((start policy).run actions).value.exports.policy = policy := policy_run (start policy) actions
  refine ⟨fun hblind policy policy' n => ?_, fun policy hoff => ?_,
    fun policy actions' service endpoints proxy he => ?_⟩
  · exact run_under policy' (start policy) fun a ha => hblind a (List.mem_of_mem_take ha)
  · have hinert (actions : List Action) :
        ((start policy).run actions).value.exports.policy.honoursExports = false := by
      rw [hpolicy, Policy.honoursExports]
      rcases hoff with h | h <;> simp [h]
    refine ⟨fun endpoint proxy => ?_, fun service endpoints proxy => ?_⟩
    · rw [ExportState.shows_own _ proxy (hinert _), ExportState.shows_own _ proxy (hinert _)]
    · rw [ExportState.discoverable_own _ proxy (hinert _),
        ExportState.discoverable_own _ proxy (hinert _)]
  · exact ExportState.discoverable_sublist _ proxy
      ((hpolicy policy actions').trans (hpolicy policy actions).symm) he

/-- A sink exports a second service once it is told of the first. From another cluster the second one is
then seen where exports are honoured; with discovery off the run is the same, and nothing is seen that is
not seen without exports. -/
theorem seen_where_honoured :
    let first : ServiceId := ⟨"ns", "first"⟩
    let second : ServiceId := ⟨"ns", "second"⟩
    let service : Service := { metadata := { name := some "first", ns := some "ns" }, spec := none }
    let writes : Channel → ExportState → Signal → List Edit := fun _ e signal =>
      if e.isExported signal.service then [.set second true] else []
    let actions : List Action :=
      [.services .listed (.call (.apply service)), .edit (.set first true), .dispatch .listed writes]
    let start (policy : Policy) := fresh policy .standard (.empty 16 fun _ => 0)
    let seen (policy : Policy) (actions : List Action) := ((start policy).run actions).value.exports
    let endpoint : Endpoint := ⟨second, ⟨"c1"⟩, .of (.v4 #v[10, 0, 0, 1]) 8080, ∅⟩
    let proxy : Proxy := ⟨⟨"c2"⟩, "ns"⟩
    (∀ a ∈ actions, a.Blind) ∧
      (start .off).run actions = under .off <$> (start ⟨true, false⟩).run actions ∧
      (seen ⟨true, false⟩ actions).shows endpoint proxy = true ∧
      ((seen ⟨true, false⟩ []).discoverable second [endpoint] proxy).Sublist
        ((seen ⟨true, false⟩ actions).discoverable second [endpoint] proxy) ∧
      (seen .off actions).shows endpoint proxy =
        (seen .off (actions.filter fun a => !a.isExport)).shows endpoint proxy := by
  intro first second service writes actions start seen endpoint proxy
  have hblind : ∀ a ∈ actions, a.Blind := by
    simp only [actions, List.forall_mem_cons]
    exact ⟨trivial, trivial, fun _ _ _ _ => rfl, List.forall_mem_nil _⟩
  have hexported : (seen ⟨true, false⟩ actions).isExported second = true := by decide
  obtain ⟨hsame, hinert, hmore⟩ := policy_decides_visibility_alone .standard 16 (fun _ => 0) actions
  refine ⟨hblind, ?_, by decide, ?_, ?_⟩
  · exact hsame hblind ⟨true, false⟩ .off 3
  · exact hmore ⟨true, false⟩ [] second [endpoint] proxy hexported
  · exact (hinert .off (.inl rfl)).1 endpoint proxy

end Controller
end MeshExport
