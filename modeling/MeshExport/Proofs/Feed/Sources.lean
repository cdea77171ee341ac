import MeshExport.Feed.Sources
import MeshExport.Proofs.Exports.Reports
import MeshExport.Proofs.Feed.Entries

/-! The three feeds read their calls entry by entry: exports as writes of export state, services and
endpoint slices as changes of the directory. A call on the feed of exports reports what the table does for
its writes; no call tries a push; and the feeds of the directory say only which objects they put aside or
indexed. -/

namespace MeshExport

namespace ExportState

def read (e : ExportState) : Entry ServiceExport → ExportState
  | .applied x => (key? x).elim e fun service => (e.created service).value
  | .deleted service => (e.deleted service).value

theorem exportFeed_reads : exportFeed.Reads read where
  apply e x := by
    simp only [exportFeed, applyExport, read, key?, Resource.metadata]
    cases x.metadata.name <;> cases x.metadata.ns <;> rfl
  skip e x h := by
    have hn : x.metadata.name = none := isNamed_eq_false_iff.mp h
    simp only [read, key?, Resource.metadata, hn]
    cases x.metadata.ns <;> rfl
  fault e x := by
    simp only [exportFeed, applyExport, isNamed, Resource.metadata]
    cases x.metadata.name <;> cases x.metadata.ns <;> simp [Outcome.stop, Outcome.ofTraced]
  delete _ _ := rfl
  reset _ _ _ := rfl

end ExportState

/-- The write an entry about an export stands for; without a full name it stands for none. -/
def Entry.writes : Entry ServiceExport → List Edit
  | .applied x => ((MeshExport.key? x).map .created).toList
  | .deleted service => [.deleted service]

def FeedCall.writes (w : Walk NamespacedName) (call : FeedCall ServiceExport) : List Edit :=
  (call.entries w).flatMap Entry.writes

namespace ExportState

theorem read_eq_editAll (e : ExportState) (entry : Entry ServiceExport) :
    e.read entry = (e.editAll entry.writes).value := by
  cases entry with
  | applied x =>
    rw [read, Entry.writes]
    cases key? x <;> rfl
  | deleted service => rfl

theorem foldl_read (e : ExportState) (entries : List (Entry ServiceExport)) :
    entries.foldl read e = (e.editAll (entries.flatMap Entry.writes)).value := by
  induction entries generalizing e with
  | nil => rfl
  | cons entry entries ih =>
    rw [List.foldl_cons, ih, read_eq_editAll, List.flatMap_cons, editAll, editAll, editAll,
      Traced.fold_append_value]

theorem state_exportFeed (w : Walk NamespacedName) (e : ExportState) (call : FeedCall ServiceExport) :
    ((exportFeed.walking w).run e call).state = (e.editAll (call.writes w)).value := by
  rw [exportFeed_reads.run, foldl_read, FeedCall.writes]

theorem reported_apply (e : ExportState) (x : ServiceExport) :
    reported (exportFeed.apply e x).events = e.table.reports (Entry.applied x).writes := by
  simp only [exportFeed, applyExport, Entry.writes, key?, Resource.metadata]
  cases x.metadata.name with
  | none => cases x.metadata.ns <;> rfl
  | some name =>
    cases x.metadata.ns with
    | none => rfl
    | some ns => exact (events_edit e (.created ⟨ns, name⟩)).1.trans (List.append_nil _).symm

theorem reported_applyAll (e : ExportState) (objects : List ServiceExport) :
    reported (applyAll exportFeed.apply e objects).events =
      e.table.reports (((objects.takeWhile isNamed).map Entry.applied).flatMap Entry.writes) := by
  induction objects generalizing e with
  | nil => rfl
  | cons x xs ih =>
    cases hn : isNamed x with
    | false =>
      have hx : x.metadata.name = none := isNamed_eq_false_iff.mp hn
      have hstop : exportFeed.apply e x = .stop e .missingName := by
        simp only [exportFeed, applyExport, hx]
      simp only [applyAll, Outcome.andThen, hstop, Outcome.stop, List.takeWhile_cons, hn]
      rfl
    | true =>
      have hf : (exportFeed.apply e x).fault = none := (exportFeed_reads.fault e x).mpr hn
      have ht : (exportFeed.apply e x).state.table = e.table.writeAll (Entry.applied x).writes := by
        rw [exportFeed_reads.apply, read_eq_editAll, table_editAll]
      simp only [applyAll, Outcome.andThen, hf, reported_append, reported_apply, ih, ht,
        List.takeWhile_cons, hn, if_true, List.map_cons, List.flatMap_cons,
        ExportTable.reports_append]

theorem reported_deleteAll (e : ExportState) (names : List ServiceId) :
    reported (Traced.fold exportFeed.delete e names).events =
      e.table.reports ((names.map Entry.deleted).flatMap Entry.writes) := by
  have hw : (names.map Entry.deleted).flatMap Entry.writes = names.map Edit.deleted := by
    rw [List.flatMap_map]
    exact List.flatMap_pure_eq_map ..
  rw [hw, ← reported_editAll, editAll, Traced.fold_map]
  rfl

/-- The log of a call on the feed of exports tells what the table reports for its writes. -/
theorem reported_exportFeed (w : Walk NamespacedName) (e : ExportState)
    (call : FeedCall ServiceExport) :
    reported ((exportFeed.walking w).run e call).events = e.table.reports (call.writes w) := by
  cases call with
  | apply x => exact (reported_apply e x).trans (congrArg _ (List.append_nil _).symm)
  | delete name => exact (events_edit e (.deleted name)).1.trans (List.append_nil _).symm
  | reset objects removed =>
    obtain ⟨hs, hf⟩ := exportFeed_reads.applyAll objects e
    rw [exportFeed_reads.reset.run_reset, replay, Outcome.andThen, FeedCall.writes, FeedCall.entries,
      List.flatMap_append, ExportTable.reports_append]
    by_cases ha : objects.all isNamed
    · simp only [hf.mpr ha, if_pos ha, reported_append, reported_applyAll, Outcome.ofTraced,
        reported_deleteAll, hs, foldl_read, table_editAll]
    · obtain ⟨fault, hfault⟩ := Option.ne_none_iff_exists'.mp (mt hf.mp ha)
      simp only [hfault, if_neg ha, reported_applyAll]
      exact (List.append_nil _).symm

end ExportState

namespace Directory

def readService (d : Directory) : Entry Service → Directory
  | .applied s => (key? s).elim d d.addService
  | .deleted name => d.removeService name

def placeSlice (d : Directory) (slice : SliceId) (s : EndpointSlice) : Directory :=
  match s.owner? with
  | none => d.forgetSlice slice
  | some owner =>
    d.moveSlice slice ⟨slice.ns, owner⟩
      (s.endpointsOf IpAddress.parse? d.cluster.id ⟨slice.ns, owner⟩).value

def readSlice (d : Directory) : Entry EndpointSlice → Directory
  | .applied s => (key? s).elim d (d.placeSlice · s)
  | .deleted slice => d.forgetSlice slice

theorem serviceFeed_reads : serviceFeed.Reads readService where
  apply d s := by
    simp only [serviceFeed, applyService, readService, key?, Resource.metadata]
    cases s.metadata.name <;> cases s.metadata.ns <;> rfl
  skip d s h := by
    have hn : s.metadata.name = none := isNamed_eq_false_iff.mp h
    simp only [readService, key?, Resource.metadata, hn]
    cases s.metadata.ns <;> rfl
  fault d s := by
    simp only [serviceFeed, applyService, isNamed, Resource.metadata]
    cases s.metadata.name <;> cases s.metadata.ns <;> simp [Outcome.stop, Outcome.done]
  delete _ _ := rfl
  reset _ _ _ := rfl

theorem sliceFeed_reads : sliceFeed.Reads readSlice where
  apply d s := by
    simp only [sliceFeed, applySlice, readSlice, placeSlice, key?, Resource.metadata]
    cases s.metadata.name <;> cases s.metadata.ns <;> cases s.owner? <;> rfl
  skip d s h := by
    have hn : s.metadata.name = none := isNamed_eq_false_iff.mp h
    simp only [readSlice, key?, Resource.metadata, hn]
    cases s.metadata.ns <;> rfl
  fault d s := by
    simp only [sliceFeed, applySlice, isNamed, Resource.metadata]
    cases s.metadata.name <;> cases s.metadata.ns <;> cases s.owner? <;> simp [Outcome.stop]
  delete _ _ := rfl
  reset _ _ _ := rfl

end Directory

/-- What every write keeps, and every event that is neither a change nor a push, calls on the feed of
exports keep. -/
theorem ExportState.exportFeed_keeps {P : ExportState → List Event → Prop}
    (hedit : ∀ e x past, P e past → P (edit e x).value (past ++ (edit e x).events))
    (hquiet : ∀ e past later, Quiet later → P e past → P e (past ++ later)) :
    exportFeed.Keeps P where
  apply e x past hp := by
    simp only [exportFeed, applyExport]
    split
    · exact hquiet e past [] .nil hp
    · exact hquiet e past _ (.singleton rfl rfl) hp
    · exact hedit e (.created _) past hp
  delete e name past hp := hedit e (.deleted name) past hp
  reset _ _ _ := rfl

def Event.isIndexing : Event → Bool
  | serviceWithoutNamespace _ => true
  | sliceWithoutNamespace _ => true
  | sliceWithoutService _ => true
  | sliceIndexed _ _ _ => true
  | sliceNotIp _ _ => true
  | invalidAddress _ _ => true
  | _ => false

def Indexing (events : List Event) : Prop := ∀ e ∈ events, e.isIndexing

namespace Indexing

variable {xs ys : List Event}

theorem nil : Indexing [] := fun _ h => (by cases h)

theorem singleton {e : Event} (h : e.isIndexing) : Indexing [e] := by
  intro e' he
  rwa [List.mem_singleton.mp he]

theorem append (hx : Indexing xs) (hy : Indexing ys) : Indexing (xs ++ ys) := by
  intro e he
  rcases List.mem_append.mp he with he | he
  · exact hx e he
  · exact hy e he

theorem quiet (h : Indexing xs) : Quiet xs := by
  intro e he
  have hi := h e he
  cases e <;> first | exact ⟨rfl, rfl⟩ | cases hi

theorem received (h : Indexing xs) : received xs = [] := by
  refine List.filterMap_eq_nil_iff.mpr fun e he => ?_
  have hi := h e he
  cases e <;> first | rfl | cases hi

end Indexing

theorem EndpointSlice.indexing_endpointsOf (parse : String → Option IpAddress) (cluster : ClusterId)
    (service : ServiceId) (s : EndpointSlice) :
    Indexing (s.endpointsOf parse cluster service).events := by
  have haddress (acc : List Endpoint) (address : String) :
      Indexing ((acc ++ ·) <$> s.addressEndpoints parse cluster service address).events := by
    simp only [Traced.map_events, addressEndpoints]
    split
    · exact .singleton rfl
    · exact .nil
  unfold endpointsOf
  split
  · refine Traced.fold_keeps _ (P := fun _ past => Indexing past) (fun acc e past hp => ?_) .nil
      s.endpoints
    split
    · exact hp.append (Traced.fold_keeps _ (P := fun _ past => Indexing past)
        (fun acc address _ hq => hq.append (haddress acc address)) .nil e.addresses)
    · exact hp.append .nil
  · exact .singleton rfl

theorem Directory.serviceFeed_indexing : serviceFeed.Keeps fun _ past => Indexing past where
  apply d s past hp := by
    refine hp.append ?_
    simp only [serviceFeed, applyService]
    split
    · exact .nil
    · exact .singleton rfl
    · exact .nil
  delete _ _ past hp := hp.append .nil
  reset _ _ _ := rfl

theorem Directory.sliceFeed_indexing : sliceFeed.Keeps fun _ past => Indexing past where
  apply d s past hp := by
    refine hp.append ?_
    simp only [sliceFeed, applySlice]
    split
    · exact .nil
    · exact .singleton rfl
    · split
      · exact .singleton rfl
      · exact .append (EndpointSlice.indexing_endpointsOf _ _ _ s) (.singleton rfl)
  delete _ _ past hp := hp.append .nil
  reset _ _ _ := rfl

end MeshExport
