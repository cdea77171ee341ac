import MeshExport.Proofs.Directory.Commuting
import MeshExport.Proofs.Feed.Order
import MeshExport.Proofs.Feed.Projection
import MeshExport.Proofs.Mesh.Dispatch

/-! Services do not disturb each other. All that bears on a service is its own record and pending push,
whether it is known, and the slices; what a run does to these is told by its slices, its dispatches and
what it says about the service itself. So the pushes of a service are the same without the others. -/

namespace MeshExport

namespace ExportState

def editOf (k : ServiceId) : Entry ServiceExport → Edit
  | .applied _ => .created k
  | .deleted _ => .deleted k

theorem own_read (e : ExportState) (entry : Entry ServiceExport) (k : ServiceId) :
    (e.read entry).own k =
      if entry.key? = some k then (editOf k entry).leave (e.own k) else e.own k := by
  cases entry with
  | deleted name =>
    have h := e.own_edit (.deleted name) k
    by_cases hk : name = k
    · simpa [read, edit, Entry.key?, editOf, Edit.service, hk] using h
    · simpa [read, edit, Entry.key?, Edit.service, hk] using h
  | applied x =>
    simp only [read, Entry.key?]
    rcases Option.eq_none_or_eq_some (MeshExport.key? x) with hx | ⟨name, hx⟩
    · simp [hx]
    · have h := e.own_edit (.created name) k
      by_cases hk : name = k
      · simpa [hx, edit, editOf, Edit.service, hk] using h
      · simpa [hx, edit, Edit.service, hk] using h

theorem own_exportFeed {e e' : ExportState} {k : ServiceId} (h : e.own k = e'.own k)
    (w w' : Walk NamespacedName) (call : FeedCall ServiceExport) :
    ((exportFeed.walking w).run e call).state.own k =
      ((call.about k).elim e' fun call' => ((exportFeed.walking w').run e' call').state).own k :=
  exportFeed_reads.view_run_about (·.own k) (fun own entry => (editOf k entry).leave own)
    (own_read · · k) h w w' call

end ExportState

namespace Directory

/-- What of a directory bears on a service: whether it is known, and all but the services. -/
def seenBy (k : ServiceId) (d : Directory) : Bool × Directory :=
  (decide (k ∈ d.services), { d with services := ∅ })

theorem seenBy_readService (d : Directory) (entry : Entry Service) (k : ServiceId) :
    (d.readService entry).seenBy k =
      if entry.key? = some k then (entry.object?.isSome, (d.seenBy k).2) else d.seenBy k := by
  have hk := d.mem_services_readService entry k
  obtain ⟨services, he⟩ := d.readService_eq entry
  rw [he] at hk ⊢
  split <;> simp_all [seenBy]

theorem seenBy_readSlice (d : Directory) (entry : Entry EndpointSlice) (k : ServiceId) :
    (d.readSlice entry).seenBy k = ((d.seenBy k).1, (d.seenBy k).2.readSlice entry) := by
  simp only [seenBy, (frame_readSlice d entry).services, readSlice_services]

theorem seenBy_readSlices (d : Directory) (entries : List (Entry EndpointSlice)) (k : ServiceId) :
    (entries.foldl readSlice d).seenBy k =
      ((d.seenBy k).1, entries.foldl readSlice (d.seenBy k).2) := by
  induction entries generalizing d with
  | nil => rfl
  | cons entry entries ih => rw [List.foldl_cons, ih, seenBy_readSlice, List.foldl_cons]

variable {k : ServiceId} {d d' : Directory}

theorem seenBy_serviceFeed (h : d.seenBy k = d'.seenBy k) (w w' : Walk NamespacedName)
    (call : FeedCall Service) :
    ((serviceFeed.walking w).run d call).state.seenBy k =
      ((call.about k).elim d' fun call' => ((serviceFeed.walking w').run d' call').state).seenBy k :=
  serviceFeed_reads.view_run_about (seenBy k) (fun seen entry => (entry.object?.isSome, seen.2))
    (seenBy_readService · · k) h w w' call

theorem seenBy_sliceFeed (h : d.seenBy k = d'.seenBy k) (w w' : Walk NamespacedName)
    (call : FeedCall EndpointSlice) :
    ((sliceFeed.walking w).run d call).state.seenBy k =
      ((sliceFeed.walking w').run d' call).state.seenBy k := by
  rw [sliceFeed_order w w', sliceFeed_reads.run, sliceFeed_reads.run, seenBy_readSlices,
    seenBy_readSlices, h]

theorem resolve_of_seenBy (h : d.seenBy k = d'.seenBy k) : d.resolve k = d'.resolve k := by
  have hs : d.slices = d'.slices := congrArg (·.2.slices) h
  have hk : k ∈ d.services ↔ k ∈ d'.services := decide_eq_decide.mp (congrArg Prod.fst h)
  simp only [resolve, hs, hk]

theorem signalOf_of_seenBy (h : d.seenBy k = d'.seenBy k) (exported : Bool) :
    signalOf d (k, exported) = signalOf d' (k, exported) := by
  have hc : d.cluster = d'.cluster := congrArg (·.2.cluster) h
  simp only [signalOf, hostname, resolve_of_seenBy h, hc]

end Directory

namespace Round

variable {σ : Type} {directory : Directory} {sink : Sink σ}

/-- A sink that never writes leaves records, pending pushes and the counts of changes alone. -/
theorem calm_pushes (hw : ∀ outbox e signal, (sink outbox e signal).edits = []) (r : Round σ)
    (slots : List Change) :
    let e := (Traced.fold (push directory sink) r slots).value.exports
    r.exports.Agrees e ∧ e.transitions = r.exports.transitions := by
  refine Traced.fold_keeps_value (push directory sink)
    (P := fun r' => r.exports.Agrees r'.exports ∧ r'.exports.transitions = r.exports.transitions)
    (fun r' slot ⟨ha, ht⟩ => ?_) ⟨⟨rfl, rfl⟩, rfl⟩ slots
  rcases push_cases directory sink r' slot with ⟨error, -, hp⟩ | ⟨signal, -, hp⟩
  · rw [hp]
    exact ⟨⟨ha.table, ha.slots⟩, ht⟩
  · have he : (r'.emit sink signal).value.exports = r'.exports.countEmitted := by
      show (r'.written sink signal).value.countEmitted = _
      rw [written, hw]
      rfl
    rw [hp, he]
    exact ⟨⟨ha.table, ha.slots⟩, ht⟩

end Round

structure Orders where
  removed : Walk NamespacedName
  pending : Walk Change

namespace Action

variable {σ : Type}

def Calm : Action σ → Prop
  | dispatch _ sink => ∀ outbox e signal, (sink outbox e signal).edits = []
  | _ => True

/-- The action without what it says about other services than `k`; nothing if it says nothing else.
Slices and dispatches stay. -/
def about (k : ServiceId) (o : Orders) : Action σ → Option (Action σ)
  | edit x => if x.service = k then some (edit x) else none
  | exports _ call => (call.about k).map (exports o.removed)
  | directory (.service _ call) => (call.about k).map fun call => directory (.service o.removed call)
  | directory (.slice _ call) => some (directory (.slice o.removed call))
  | dispatch _ sink => some (dispatch o.pending sink)

end Action

namespace Mesh

variable {σ : Type}

def seenBy (k : ServiceId) (m : Mesh σ) : (Option Bool × Option Bool) × Bool × Directory :=
  (m.exports.own k, m.directory.seenBy k)

def emitted (m : Mesh σ) (a : Action σ) : Option (List Signal) :=
  if a.isDispatch then some (signals (m.act a).events) else none

def emissions (m : Mesh σ) : List (Action σ) → List (List Signal)
  | [] => []
  | a :: as => (m.emitted a).toList ++ (m.act a).value.emissions as

variable {k : ServiceId} {m m' : Mesh σ}

theorem calm_dispatch (m : Mesh σ) (w : Walk Change) {sink : Sink σ}
    (hw : ∀ outbox e signal, (sink outbox e signal).edits = []) :
    let e := (m.act (.dispatch w sink)).value.exports
    m.exports.detach.Agrees e ∧ e.transitions = m.exports.transitions :=
  Round.calm_pushes hw ⟨m.exports.detach, m.outbox, 0⟩ (m.batch w)

theorem own_dispatch (m : Mesh σ) (w : Walk Change) {sink : Sink σ}
    (hw : ∀ outbox e signal, (sink outbox e signal).edits = []) (k : ServiceId) :
    (m.act (.dispatch w sink)).value.exports.own k = ((m.exports.own k).1, none) := by
  have ha := (m.calm_dispatch w hw).1
  rw [ExportState.own, ha.table, ha.slot?]
  exact congrArg _ (PendingPushes.slot?_detach m.exports.pushes k)

/-- What bears on `k` after an action is the same without what the action says about others. -/
theorem seenBy_act (h : m.seenBy k = m'.seenBy k) (o : Orders) {a : Action σ} (hcalm : a.Calm) :
    (m.act a).value.seenBy k = ((a.about k o).elim m' fun a' => (m'.act a').value).seenBy k := by
  have hown : m.exports.own k = m'.exports.own k := congrArg Prod.fst h
  have hdirectory : m.directory.seenBy k = m'.directory.seenBy k := congrArg Prod.snd h
  cases a with
  | edit x =>
    have hx : (m.exports.edit x).value.own k =
        if x.service = k then (m'.exports.edit x).value.own k else m'.exports.own k := by
      rw [ExportState.own_edit, ExportState.own_edit, hown]
      split <;> rfl
    by_cases hk : x.service = k
    · rw [if_pos hk] at hx
      simp only [Action.about, if_pos hk]
      exact Prod.ext hx hdirectory
    · rw [if_neg hk] at hx
      simp only [Action.about, if_neg hk]
      exact Prod.ext hx hdirectory
  | exports w call =>
    have hc := ExportState.own_exportFeed hown w o.removed call
    simp only [Action.about]
    cases hcall : call.about k <;> rw [hcall] at hc <;> exact Prod.ext hc hdirectory
  | directory call =>
    cases call with
    | service w call =>
      have hc := Directory.seenBy_serviceFeed hdirectory w o.removed call
      simp only [Action.about]
      cases hcall : call.about k <;> rw [hcall] at hc <;> exact Prod.ext hown hc
    | slice w call => exact Prod.ext hown (Directory.seenBy_sliceFeed hdirectory w o.removed call)
  | dispatch w sink =>
    refine Prod.ext ?_ hdirectory
    show (m.act _).value.exports.own k = (m'.act _).value.exports.own k
    rw [own_dispatch m w hcalm, own_dispatch m' o.pending hcalm, hown]

/-- A dispatch emits for a service what its own pending push comes to. -/
theorem signals_dispatch (m : Mesh σ) (w : Walk Change) (sink : Sink σ) (k : ServiceId) :
    (signals (m.act (.dispatch w sink)).events).filter (·.service = k) =
      ((m.exports.own k).2.map (k, ·)).toList.filterMap (signalOf m.directory) := by
  have hs : signals (m.act (.dispatch w sink)).events =
      (m.batch w).filterMap (signalOf m.directory) := signals_dispatchIn ..
  rw [hs, filter_filterMap_signalOf, filter_batch]
  rfl

theorem emitted_act (h : m.seenBy k = m'.seenBy k) (o : Orders) (a : Action σ) :
    (m.emitted a).map (fun sent => sent.filter (·.service = k)) =
      ((a.about k o).bind m'.emitted).map fun sent => sent.filter (·.service = k) := by
  cases a with
  | edit x =>
    simp only [Action.about]
    split <;> rfl
  | exports w call =>
    simp only [Action.about]
    cases call.about k <;> rfl
  | directory call =>
    cases call with
    | service w call =>
      simp only [Action.about]
      cases call.about k <;> rfl
    | slice w call => rfl
  | dispatch w sink =>
    have hown : m.exports.own k = m'.exports.own k := congrArg Prod.fst h
    have hs : (signals (m.act (.dispatch w sink)).events).filter (·.service = k) =
        (signals (m'.act (.dispatch o.pending sink)).events).filter (·.service = k) := by
      rw [signals_dispatch, signals_dispatch, hown]
      cases (m'.exports.own k).2 with
      | none => rfl
      | some exported =>
        simp only [Option.map_some, Option.toList_some, List.filterMap_cons, List.filterMap_nil,
          Directory.signalOf_of_seenBy (congrArg Prod.snd h)]
    exact congrArg some hs

def isolated (k : ServiceId) (steps : List (Action σ × Orders)) : List (Action σ) :=
  steps.filterMap fun step => step.1.about k step.2

theorem seenBy_run (h : m.seenBy k = m'.seenBy k) (steps : List (Action σ × Orders))
    (hcalm : ∀ step ∈ steps, step.1.Calm) :
    (m.run (steps.map Prod.fst)).value.seenBy k = (m'.run (isolated k steps)).value.seenBy k ∧
      (m.emissions (steps.map Prod.fst)).map (fun sent => sent.filter (·.service = k)) =
        (m'.emissions (isolated k steps)).map fun sent => sent.filter (·.service = k) := by
  induction steps generalizing m m' with
  | nil => exact ⟨h, rfl⟩
  | cons step steps ih =>
    obtain ⟨hstep, hsteps⟩ := List.forall_mem_cons.mp hcalm
    have hseen := seenBy_act h step.2 hstep
    have hsent := congrArg Option.toList (emitted_act h step.2 step.1)
    simp only [Option.toList_map] at hsent
    simp only [isolated, List.map_cons, List.filterMap_cons, emissions, List.map_append, hsent]
    cases ha : step.1.about k step.2 with
    | none =>
      rw [ha] at hseen
      exact ih hseen hsteps
    | some a =>
      rw [ha] at hseen
      obtain ⟨hlast, hlater⟩ := ih hseen hsteps
      refine ⟨hlast, ?_⟩
      rw [hlater, emissions, List.map_append]
      rfl

/-- Take a run whose sinks never write, and leave out all it says about services other than `k`, in
resets as well; slices and dispatches stay, tables are spread and walked in any order. Each dispatch
emits the same signals for `k`, and after every step `k` is exported or not, has a pending push or not,
and is resolved, just as in the whole run. -/
theorem service_isolated (policy : Policy) (cluster : Cluster) (width width' : Nat)
    (hash hash' : ServiceId → UInt64) (outbox : σ) (k : ServiceId) (steps : List (Action σ × Orders))
    (hcalm : ∀ step ∈ steps, step.1.Calm) :
    let start := fresh policy cluster (.empty width hash) outbox
    let start' := fresh policy cluster (.empty width' hash') outbox
    (start.emissions (steps.map Prod.fst)).map (fun sent => sent.filter (·.service = k)) =
        (start'.emissions (isolated k steps)).map (fun sent => sent.filter (·.service = k)) ∧
      ∀ n,
        let m := (start.run ((steps.take n).map Prod.fst)).value
        let m' := (start'.run (isolated k (steps.take n))).value
        m.exports.isExported k = m'.exports.isExported k ∧
          m.exports.pushes.slot? k = m'.exports.pushes.slot? k ∧
          m.directory.resolve k = m'.directory.resolve k := by
  intro start start'
  have hstart : start.seenBy k = start'.seenBy k := by
    simp [start, start', seenBy, fresh, ExportState.own, ExportTable.record?_empty]
  refine ⟨(seenBy_run hstart steps hcalm).2, fun n => ?_⟩
  intro m m'
  have htake : ∀ step ∈ steps.take n, step.1.Calm := fun step hm => hcalm step (List.mem_of_mem_take hm)
  obtain ⟨hseen, -⟩ := seenBy_run hstart (steps.take n) htake
  have hown : m.exports.own k = m'.exports.own k := congrArg Prod.fst hseen
  refine ⟨congrArg (fun own => own.1.getD false) hown, congrArg Prod.snd hown, ?_⟩
  exact Directory.resolve_of_seenBy (congrArg Prod.snd hseen)

/-- Two services exported in one reset, one of them gone in the next: its two signals come with and
without the other. -/
theorem isolated_from_other_service :
    let named (name : String) : ObjectMeta := { name := some name, ns := some "ns" }
    let slice : EndpointSlice :=
      { addressType := "IPv4"
        endpoints := [⟨["10.0.0.1"], none, none, none, none, none⟩]
        metadata := { named "slice" with labels := some (.ofList [(serviceNameLabel, "a")]) }
        ports := some [⟨none, none, some 8080, none⟩] }
    let silent : Sink Unit := fun _ _ _ => { state := () }
    let steps : List (Action Unit × Orders) := [
      .directory (.slice .listed (.apply slice)),
      .exports .listed (.reset [{ metadata := named "b" }, { metadata := named "a" }] ∅),
      .directory (.service .listed (.apply { metadata := named "b", spec := none })),
      .dispatch .listed silent,
      .exports .listed (.reset [{ metadata := named "b" }] (.ofList [(⟨"ns", "a"⟩ : ServiceId)])),
      .dispatch .listed silent].map (·, ⟨.listed, .listed⟩)
    let a : ServiceId := ⟨"ns", "a"⟩
    let signal (exported : Bool) : Signal :=
      ⟨a, "a.ns.svc.cluster.local",
        [⟨a, ⟨"c1"⟩, .of (.v4 #v[10, 0, 0, 1]) 8080, .ofList [(serviceNameLabel, "a")]⟩], exported⟩
    let start := fresh ⟨true, false⟩ .standard (.empty 16 fun _ => 0) ()
    (isolated a steps).length = 5 ∧
      (start.emissions (isolated a steps)).map (fun sent => sent.filter (·.service = a)) =
        [[signal true], [signal false]] ∧
      (start.emissions (steps.map Prod.fst)).map (fun sent => sent.filter (·.service = a)) =
        [[signal true], [signal false]] := by
  refine ⟨rfl, rfl, ?_⟩
  refine (service_isolated ⟨true, false⟩ .standard 16 16 _ (fun _ => 0) () _ _ ?_).1.trans rfl
  simp [Action.Calm]

end Mesh
end MeshExport
