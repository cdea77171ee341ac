import MeshExport.Proofs.Controller.Conservation

/-! Counted calls. The feeds of a controller count the calls made on them, by kind of resource. What the
calls do, and where they stop, is what they do on the mesh alone; and the counts are the calls made, a
call that stops at a fault among them. -/

namespace MeshExport

section outcomes

variable {σ α : Type} (step : σ → α → Outcome σ)

/-- The outcomes of steps taken in order. A fault ends its own step and none of those after it. -/
def outcomes (s : σ) : List α → List (Outcome σ)
  | [] => []
  | a :: as => step s a :: outcomes (step s a).state as

def stateAfter (s : σ) (as : List α) : σ := as.foldl (fun s a => (step s a).state) s

variable {τ : Type} {step} {step' : τ → α → Outcome τ} {f : σ → τ}

theorem outcomes_hom (h : ∀ s a, (step s a).map f = step' (f s) a) (s : σ) (as : List α) :
    (outcomes step s as).map (Outcome.map f) = outcomes step' (f s) as := by
  induction as generalizing s with
  | nil => rfl
  | cons a as ih =>
    -- both go on after a fault, from states that still look alike
    have hstate : f (step s a).state = (step' (f s) a).state := congrArg Outcome.state (h s a)
    rw [outcomes, outcomes, List.map_cons, h, ih, hstate]

end outcomes

inductive CallSort where
  | apply
  | delete
  | reset
deriving DecidableEq

def CallSort.family : CallSort → String
  | apply => "index_applies"
  | delete => "index_deletes"
  | reset => "index_resets"

def FeedCall.tally {ρ : Type} [Resource ρ] : FeedCall ρ → CallSort × Kind
  | .apply _ => (.apply, Resource.kind ρ)
  | .delete _ => (.delete, Resource.kind ρ)
  | .reset _ _ => (.reset, Resource.kind ρ)

namespace FeedCounts

def of (counts : FeedCounts) : CallSort → KindCounts
  | .apply => counts.applies
  | .delete => counts.deletes
  | .reset => counts.resets

/-- A call is counted under its own sort and kind, and nowhere else. -/
theorem get_count {ρ : Type} [Resource ρ] (counts : FeedCounts) (call : FeedCall ρ) (sort : CallSort)
    (kind : Kind) :
    ((counts.count call).of sort).get kind =
      (counts.of sort).get kind + if call.tally = (sort, kind) then 1 else 0 := by
  cases call <;> cases sort <;> simp [count, of, FeedCall.tally, KindCounts.get_count]

end FeedCounts

def Action.tally? {σ : Type} : Action σ → Option (CallSort × Kind)
  | .exports _ call => some call.tally
  | .directory (.service _ call) => some call.tally
  | .directory (.slice _ call) => some call.tally
  | _ => none

namespace FeedCounts

def tally {σ : Type} (counts : FeedCounts) : Action σ → FeedCounts
  | .exports _ call => counts.count call
  | .directory (.service _ call) => counts.count call
  | .directory (.slice _ call) => counts.count call
  | _ => counts

theorem get_tally {σ : Type} (counts : FeedCounts) (a : Action σ) (sort : CallSort) (kind : Kind) :
    ((counts.tally a).of sort).get kind =
      (counts.of sort).get kind + if a.tally? = some (sort, kind) then 1 else 0 := by
  have hcall {ρ : Type} [Resource ρ] (call : FeedCall ρ) :
      ((counts.count call).of sort).get kind =
        (counts.of sort).get kind + if some call.tally = some (sort, kind) then 1 else 0 := by
    simpa only [Option.some_inj] using counts.get_count call sort kind
  cases a with
  | exports w call => exact hcall call
  | directory call =>
    cases call with
    | service w call => exact hcall call
    | slice w call => exact hcall call
  | _ => rfl

end FeedCounts

/-- An action on the mesh alone, with the fault it stops at. -/
def Mesh.take {σ : Type} (m : Mesh σ) : Action σ → Outcome (Mesh σ)
  | .edit x => .ofTraced (m.edit x)
  | .exports w call =>
    ((ExportState.exportFeed.walking w).run m.exports call).map fun exports => { m with exports }
  | .directory call => (m.directory.take call).map fun directory => { m with directory }
  | .dispatch w sink => .ofTraced (Prod.fst <$> m.dispatchIn (m.batch w) sink)

theorem Mesh.traced_take {σ : Type} (m : Mesh σ) (a : Action σ) : (m.take a).traced = m.act a := by
  cases a <;> rfl

namespace MetricFamily

def labelled (f : MetricFamily) (label : String × String) : Nat :=
  ((f.samples.filter (·.label = some label)).map Sample.value).sum

theorem labelled_counters (name help label value : String) (values : List (String × Nat)) :
    (counters name help label values).labelled (label, value) =
      ((values.filter (·.1 = value)).map Prod.snd).sum := by
  induction values with
  | nil => rfl
  | cons v values ih =>
    simp only [counters, labelled] at ih ⊢
    by_cases hv : v.2 = 0 <;> by_cases hl : v.1 = value <;> simpa [hv, hl] using ih

end MetricFamily

theorem KindCounts.sum_byName (counts : KindCounts) (kind : Kind) :
    ((counts.byName.filter (·.1 = kind.name)).map Prod.snd).sum = counts.get kind := by
  cases kind <;> simp [byName, Kind.name, ServiceExport.kind, Service.kind, EndpointSlice.kind]

namespace Controller

def labelled (c : Controller) (name : String) (label : String × String) : Nat :=
  ((c.metrics.filter (·.name = name)).map (·.labelled label)).sum

/-- An action through the feeds that count, with the fault it stops at. -/
def take (c : Controller) : MeshExport.Action Channel → Outcome Controller
  | .edit x => .ofTraced (c.edit x)
  | .exports w call => (counted (exportsIn w)).run c call
  | .directory (.service w call) => (counted (servicesIn w)).run c call
  | .directory (.slice w call) => (counted (slicesIn w)).run c call
  | .dispatch w sink =>
    .ofTraced ((fun r => c.withMesh r.1) <$> c.mesh.dispatchIn (c.mesh.batch w) sink)

/-- The calls and the dispatch of the controller are such actions. -/
theorem take_listed (c : Controller) :
    (∀ call : FeedCall ServiceExport, c.take (.exports .listed call) = c.call call) ∧
      (∀ call : FeedCall Service, c.take (.directory (.service .listed call)) = c.call call) ∧
      (∀ call : FeedCall EndpointSlice, c.take (.directory (.slice .listed call)) = c.call call) ∧
      c.take (.dispatch .listed c.sink) = .ofTraced (Prod.fst <$> c.dispatch) :=
  ⟨fun _ => rfl, fun _ => rfl, fun _ => rfl, rfl⟩

/-- An action is that on the mesh, and the call it makes is counted, whatever comes of it. -/
theorem take_eq (c : Controller) (a : MeshExport.Action Channel) :
    c.take a = (c.mesh.take a).map fun mesh => { c with counts := c.counts.tally a, mesh } := by
  cases a with
  | edit x => rfl
  | exports w call =>
    rw [take, run_counted, exportsIn, Feed.run_within]
    rfl
  | directory call =>
    cases call with
    | service w call =>
      rw [take, run_counted, servicesIn, Feed.run_within]
      rfl
    | slice w call =>
      rw [take, run_counted, slicesIn, Feed.run_within]
      rfl
  | dispatch w sink => rfl

theorem mesh_take (c : Controller) (a : MeshExport.Action Channel) :
    (c.take a).map Controller.mesh = c.mesh.take a := by
  rw [take_eq]
  rfl

theorem counts_stateAfter (c : Controller) (actions : List (MeshExport.Action Channel)) (sort : CallSort)
    (kind : Kind) :
    ((stateAfter take c actions).counts.of sort).get kind =
      (c.counts.of sort).get kind + (actions.filterMap Action.tally?).count (sort, kind) := by
  induction actions generalizing c with
  | nil => rfl
  | cons a as ih =>
    have hcounts : (c.take a).state.counts = c.counts.tally a := by rw [take_eq]; rfl
    rw [stateAfter, List.foldl_cons, ← stateAfter, ih, hcounts, FeedCounts.get_tally, Nat.add_assoc]
    congr 1
    cases ht : a.tally? with
    | none => simp [List.filterMap_cons_none ht]
    | some t =>
      rw [List.filterMap_cons_some ht, List.count_cons, Nat.add_comm]
      simp

theorem labelled_family (c : Controller) (sort : CallSort) (kind : Kind) :
    c.labelled sort.family ("kind", kind.name) = (c.counts.of sort).get kind := by
  cases sort <;>
    simp [labelled, metrics, ExportState.metrics, FeedCounts.metrics, Pipeline.metrics, CallSort.family,
      MetricFamily.labelled_counters, KindCounts.sum_byName, FeedCounts.of]

/-- Whatever actions a controller takes from its start, calls that stop at a fault among them, on the mesh
each of them does what it does without the counting: export state with its counters, the directory and the
channel end up the same, with the same events and the same fault. And for each sort of call and each kind,
an exposition reads how many such calls were made; a reset counts as a reset alone. -/
theorem counted_calls_refine (policy : Policy) (cluster : Cluster) (table : ExportTable)
    (actions : List (MeshExport.Action Channel)) :
    (outcomes take (fresh policy cluster table) actions).map (Outcome.map Controller.mesh) =
        outcomes Mesh.take (Mesh.fresh policy cluster table {}) actions ∧
      ∀ (sort : CallSort) (kind : Kind),
        (stateAfter take (fresh policy cluster table) actions).labelled sort.family
            ("kind", kind.name) =
          (actions.filterMap Action.tally?).count (sort, kind) := by
  refine ⟨outcomes_hom mesh_take (fresh policy cluster table) actions, fun sort kind => ?_⟩
  rw [labelled_family, counts_stateAfter]
  cases sort <;> cases kind <;> exact Nat.zero_add _

end Controller
end MeshExport
