import MeshExport.Proofs.Controller.Run
import MeshExport.Proofs.Feed.Order

/-! The three feeds are called by three watches, and which of them is ahead is chance. It makes no
difference: calls of different kinds commute, so a controller ends in one state whatever the
interleaving, and its next dispatch emits the same signals. -/

namespace MeshExport

theorem KindCounts.count_comm (c : KindCounts) (k l : Kind) :
    (c.count k).count l = (c.count l).count k := by
  cases k <;> cases l <;> rfl

theorem FeedCounts.count_comm {ρ ρ' : Type} [Resource ρ] [Resource ρ'] (counts : FeedCounts)
    (call : FeedCall ρ) (call' : FeedCall ρ') :
    (counts.count call).count call' = (counts.count call').count call := by
  cases call <;> cases call' <;> simp only [count, KindCounts.count_comm]

namespace Controller

def after {ρ : Type} [Source ρ] (c : Controller) (call : FeedCall ρ) : Controller :=
  (c.call call).state

theorem after_eq {ρ : Type} [Source ρ] {f : Feed (Mesh Channel) ρ} (hf : Source.feed = counted f)
    (c : Controller) (call : FeedCall ρ) :
    c.after call = { c with counts := c.counts.count call, mesh := (f.run c.mesh call).state } := by
  rw [after, Controller.call, hf, run_counted]
  rfl

/-! Where a call leads, whatever the order in which it walks the names it removes. -/

section order

variable (c : Controller) (w : Walk NamespacedName)

theorem after_exports (call : FeedCall ServiceExport) :
    c.after call =
      { c with
        counts := c.counts.count call
        mesh := { c.mesh with
          exports := ((ExportState.exportFeed.walking w).run c.mesh.exports call).state } } := by
  rw [after_eq feeds_listed.1, exportsIn, Feed.run_within, ExportState.exportFeed_order w .listed]
  rfl

theorem after_services (call : FeedCall Service) :
    c.after call =
      { c with
        counts := c.counts.count call
        mesh := { c.mesh with
          directory := ((Directory.serviceFeed.walking w).run c.mesh.directory call).state } } := by
  rw [after_eq feeds_listed.2.1, servicesIn, Feed.run_within, Directory.serviceFeed_order w .listed]
  rfl

theorem after_slices (call : FeedCall EndpointSlice) :
    c.after call =
      { c with
        counts := c.counts.count call
        mesh := { c.mesh with
          directory := ((Directory.sliceFeed.walking w).run c.mesh.directory call).state } } := by
  rw [after_eq feeds_listed.2.2, slicesIn, Feed.run_within, Directory.sliceFeed_order w .listed]
  rfl

theorem value_put {ρ : Type} [Source ρ] (f : Feed (Mesh Channel) ρ) (call : FeedCall ρ) :
    (c.put f (.call call)).value =
      { c with counts := c.counts.count call, mesh := (f.run c.mesh call).state } := by
  rw [put, run_counted]
  rfl

theorem act_exports (call : FeedCall ServiceExport) :
    (c.act (.exports w (.call call))).value = c.after call := by
  rw [act, value_put, exportsIn, Feed.run_within, after_exports c w]
  rfl

theorem act_services (call : FeedCall Service) :
    (c.act (.services w (.call call))).value = c.after call := by
  rw [act, value_put, servicesIn, Feed.run_within, after_services c w]
  rfl

theorem act_slices (call : FeedCall EndpointSlice) :
    (c.act (.slices w (.call call))).value = c.after call := by
  rw [act, value_put, slicesIn, Feed.run_within, after_slices c w]
  rfl

end order

/-! Calls of different kinds commute. -/

theorem exports_services_comm (c : Controller) (e : FeedCall ServiceExport) (s : FeedCall Service) :
    (c.after s).after e = (c.after e).after s := by
  simp only [after_exports _ .listed, after_services _ .listed, FeedCounts.count_comm _ s e]

theorem exports_slices_comm (c : Controller) (e : FeedCall ServiceExport)
    (l : FeedCall EndpointSlice) : (c.after l).after e = (c.after e).after l := by
  simp only [after_exports _ .listed, after_slices _ .listed, FeedCounts.count_comm _ l e]

theorem services_slices_comm (c : Controller) (s : FeedCall Service) (l : FeedCall EndpointSlice) :
    (c.after l).after s = (c.after s).after l := by
  simp only [after_services _ .listed, after_slices _ .listed, FeedCounts.count_comm _ l s,
    Directory.serviceFeed_reads.run, Directory.sliceFeed_reads.run,
    Directory.foldl_readService_readSlice]

/-- Some order of calls on the three feeds that keeps the order of each kind. Each call walks the names
it removes in an order of its own. -/
inductive Interleaved : List (FeedCall ServiceExport) → List (FeedCall Service) →
    List (FeedCall EndpointSlice) → List Action → Prop where
  | nil : Interleaved [] [] [] []
  | exports {es ss ls actions} (w : Walk NamespacedName) (call : FeedCall ServiceExport)
      (rest : Interleaved es ss ls actions) :
      Interleaved (call :: es) ss ls (.exports w (.call call) :: actions)
  | services {es ss ls actions} (w : Walk NamespacedName) (call : FeedCall Service)
      (rest : Interleaved es ss ls actions) :
      Interleaved es (call :: ss) ls (.services w (.call call) :: actions)
  | slices {es ss ls actions} (w : Walk NamespacedName) (call : FeedCall EndpointSlice)
      (rest : Interleaved es ss ls actions) :
      Interleaved es ss (call :: ls) (.slices w (.call call) :: actions)

/-- The calls on exports first, then those on services, then those on slices. -/
def settled (c : Controller) (es : List (FeedCall ServiceExport)) (ss : List (FeedCall Service))
    (ls : List (FeedCall EndpointSlice)) : Controller :=
  ls.foldl after (ss.foldl after (es.foldl after c))

/-- An interleaving ends where the calls lead kind by kind: a call is moved past the calls of other
kinds that come before it there. -/
theorem Interleaved.run_eq_settled {es : List (FeedCall ServiceExport)} {ss : List (FeedCall Service)}
    {ls : List (FeedCall EndpointSlice)} {actions : List Action} (h : Interleaved es ss ls actions)
    (c : Controller) : (c.run actions).value = c.settled es ss ls := by
  induction h generalizing c with
  | nil => rfl
  | exports w call rest ih =>
    rw [run, Traced.fold_cons_value, act_exports]
    exact ih _
  | services w call rest ih =>
    rw [run, Traced.fold_cons_value, act_services]
    refine (ih _).trans ?_
    rw [settled, settled, List.foldl_cons]
    rw [List.foldl_hom (after · call) fun c e => exports_services_comm c e call]
  | slices w call rest ih =>
    rw [run, Traced.fold_cons_value, act_slices]
    refine (ih _).trans ?_
    rw [settled, settled, List.foldl_cons]
    rw [List.foldl_hom (after · call) fun c e => exports_slices_comm c e call,
      List.foldl_hom (after · call) fun c s => services_slices_comm c s call]

/-- From any state, two interleavings of the same calls end in one state: the same exports, pending
pushes, services, slices, owners and counts. A dispatch that follows emits the same signals after either,
one for a service at most, in whatever order it walks the pending pushes. -/
theorem run_interleaved (c : Controller) {es : List (FeedCall ServiceExport)}
    {ss : List (FeedCall Service)} {ls : List (FeedCall EndpointSlice)} {actions actions' : List Action}
    (h : Interleaved es ss ls actions) (h' : Interleaved es ss ls actions') :
    let last := (c.run actions).value
    let last' := (c.run actions').value
    last = last' ∧ ∀ (w w' : Walk Change) (sink : Sink Channel),
      let sent := signals (last.mesh.dispatchIn (last.mesh.batch w) sink).events
      let sent' := signals (last'.mesh.dispatchIn (last'.mesh.batch w') sink).events
      sent.Perm sent' ∧ (sent.map (·.service)).Nodup := by
  intro last last'
  have hlast : last = last' := (h.run_eq_settled c).trans (h'.run_eq_settled c).symm
  refine ⟨hlast, fun w w' sink => ?_⟩
  intro sent sent'
  have hsent : sent = (last.mesh.batch w).filterMap (signalOf last.mesh.directory) :=
    signals_dispatchIn ..
  have hsent' : sent' = (last.mesh.batch w').filterMap (signalOf last.mesh.directory) := by
    rw [hlast]
    exact signals_dispatchIn ..
  have hbatch : (last.mesh.batch w).Perm (last.mesh.batch w') := (w.perm _).trans (w'.perm _).symm
  rw [hsent, hsent']
  exact ⟨hbatch.filterMap _, last.mesh.nodup_signals w⟩

/-- Two interleavings of four calls, in which the names of a reset are also walked in another order: one
and the same signal follows. -/
theorem interleaved_four_calls :
    let named (name : String) : ObjectMeta := { name := some name, ns := some "ns" }
    let slice : EndpointSlice :=
      { addressType := "IPv4"
        endpoints := [⟨["10.0.0.1"], none, none, none, none, none⟩]
        metadata := { named "slice" with labels := some (.ofList [(serviceNameLabel, "a")]) }
        ports := some [⟨none, none, some 8080, none⟩] }
    let reset : FeedCall ServiceExport :=
      .reset [{ metadata := named "a" }] (.ofList [(⟨"ns", "b"⟩ : NamespacedName), ⟨"ns", "c"⟩])
    let service : FeedCall Service := .apply { metadata := named "a", spec := none }
    let backwards : Walk NamespacedName := ⟨List.reverse, List.reverse_perm⟩
    let start := fresh ⟨true, false⟩ .standard (.empty 16 fun _ => 0)
    let last := (start.run [
      .exports .listed (.call reset), .services .listed (.call service),
      .slices .listed (.call (.apply slice)), .slices .listed (.call (.delete ⟨"ns", "gone"⟩))]).value
    let last' := (start.run [
      .slices .listed (.call (.apply slice)), .services .listed (.call service),
      .slices .listed (.call (.delete ⟨"ns", "gone"⟩)), .exports backwards (.call reset)]).value
    last = last' ∧
      signals (last'.mesh.dispatchIn (last'.mesh.batch .listed) Channel.sink).events =
        [⟨⟨"ns", "a"⟩, "a.ns.svc.cluster.local",
          [⟨⟨"ns", "a"⟩, ⟨"c1"⟩, .of (.v4 #v[10, 0, 0, 1]) 8080, .ofList [(serviceNameLabel, "a")]⟩],
          true⟩] := by
  intro named slice reset service backwards start last last'
  have h : Interleaved [reset] [service] [.apply slice, .delete ⟨"ns", "gone"⟩] _ :=
    .exports .listed _ (.services .listed _ (.slices .listed _ (.slices .listed _ .nil)))
  have h' : Interleaved [reset] [service] [.apply slice, .delete ⟨"ns", "gone"⟩] _ :=
    .slices .listed _ (.services .listed _ (.slices .listed _ (.exports backwards _ .nil)))
  exact ⟨(run_interleaved start h h').1, rfl⟩

end Controller
end MeshExport
