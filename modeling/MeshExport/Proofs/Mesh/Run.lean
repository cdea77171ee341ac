import Mathlib.Data.List.Nodup
import MeshExport.Mesh
import MeshExport.Proofs.Directory.History
import MeshExport.Proofs.Push.Batch

/-! Runs of a mesh: any number of writes of export state, calls on the three feeds and dispatches, each
with a sink of its own and in any order of the tables that are walked. Along a run, exactly the
services with a change that the table has reported since the last detachment have a pending push; and
the log tells the changes that the table reports. -/

namespace MeshExport

def Outcome.traced {σ : Type} (o : Outcome σ) : Traced σ := ⟨o.state, o.events⟩

/-- Among changes of different services, those of one are a single change. -/
theorem filter_service {changes : List Change} (hd : (changes.map Prod.fst).Nodup)
    {service : ServiceId} {exported : Bool} (hm : (service, exported) ∈ changes) :
    changes.filter (·.1 = service) = [(service, exported)] := by
  induction changes with
  | nil => cases hm
  | cons c cs ih =>
    obtain ⟨hc, hcs⟩ := List.nodup_cons.mp hd
    rcases List.mem_cons.mp hm with rfl | hm
    · have hn : cs.filter (·.1 = service) = [] := by
        refine List.filter_eq_nil_iff.mpr fun c' hc' he => hc ?_
        exact List.mem_map.mpr ⟨c', hc', of_decide_eq_true he⟩
      simp [hn]
    · have hne : c.1 ≠ service := fun he => hc (List.mem_map.mpr ⟨_, hm, he.symm⟩)
      simp [hne, ih hcs hm]

inductive Action (σ : Type) where
  | edit (x : Edit)
  | exports (w : Walk NamespacedName) (call : FeedCall ServiceExport)
  | directory (call : DirectoryCall)
  | dispatch (w : Walk Change) (sink : Sink σ)

def Action.isDispatch {σ : Type} : Action σ → Bool
  | .dispatch _ _ => true
  | _ => false

def Action.call? {σ : Type} : Action σ → Option DirectoryCall
  | .directory call => some call
  | _ => none

namespace Mesh

variable {σ : Type}

/-- The pending pushes in the order a dispatch walks them. -/
def batch (m : Mesh σ) (w : Walk Change) : List Change := w.order m.exports.pushes.slots.toList

def act (m : Mesh σ) : Action σ → Traced (Mesh σ)
  | .edit x => m.edit x
  | .exports w call =>
    (fun exports => { m with exports }) <$>
      ((ExportState.exportFeed.walking w).run m.exports call).traced
  | .directory call => (fun directory => { m with directory }) <$> (m.directory.take call).traced
  | .dispatch w sink => Prod.fst <$> m.dispatchIn (m.batch w) sink

def run (m : Mesh σ) (actions : List (Action σ)) : Traced (Mesh σ) := Traced.fold act m actions

/-- The writes of export state an action makes, those of a dispatch being made by its sink. -/
def writes (m : Mesh σ) : Action σ → List Edit
  | .edit x => [x]
  | .exports w call => call.writes w
  | .directory _ => []
  | .dispatch w sink => writesIn (m.batch w) m.directory sink m.exports m.outbox

def allWrites (m : Mesh σ) : List (Action σ) → List Edit
  | [] => []
  | a :: as => m.writes a ++ (m.act a).value.allWrites as

/-- The changes the table reports for the writes of an action. -/
def changesOf (m : Mesh σ) (a : Action σ) : List Change := m.exports.table.reports (m.writes a)

def changes (m : Mesh σ) : List (Action σ) → List Change
  | [] => []
  | a :: as => m.changesOf a ++ (m.act a).value.changes as

/-- The changes reported since the pending pushes were last taken away, `before` being those from before
the run. -/
def changedSince (m : Mesh σ) (before : List Change) : List (Action σ) → List Change
  | [] => before
  | a :: as =>
    (m.act a).value.changedSince (if a.isDispatch then m.changesOf a else before ++ m.changesOf a) as

theorem indexing_directory (m : Mesh σ) (call : DirectoryCall) :
    Indexing (m.act (.directory call)).events := by
  cases call with
  | service w call => exact Directory.serviceFeed_indexing.run w call .nil
  | slice w call => exact Directory.sliceFeed_indexing.run w call .nil

theorem quiet_directory (m : Mesh σ) (call : DirectoryCall) :
    Quiet (m.act (.directory call)).events :=
  (m.indexing_directory call).quiet

theorem table_act (m : Mesh σ) (a : Action σ) :
    (m.act a).value.exports.table = m.exports.table.writeAll (m.writes a) := by
  cases a with
  | edit x => exact ExportState.table_edit m.exports x
  | exports w call =>
    show ((ExportState.exportFeed.walking w).run m.exports call).state.table = _
    rw [ExportState.state_exportFeed, ExportState.table_editAll]
    rfl
  | directory call => rfl
  | dispatch w sink =>
    have ha := dispatchIn_agrees (m.batch w) m.directory sink m.exports m.outbox
    exact ha.table.trans (ExportState.table_editAll ..)

/-- A run makes its writes in order, and no other. -/
theorem table_run (m : Mesh σ) (actions : List (Action σ)) :
    (m.run actions).value.exports.table = m.exports.table.writeAll (m.allWrites actions) := by
  induction actions generalizing m with
  | nil => rfl
  | cons a as ih =>
    rw [run, Traced.fold_cons_value, ← run, ih, table_act, allWrites]
    exact List.foldl_append.symm

theorem pends_fresh (policy : Policy) (cluster : Cluster) (width : Nat) (hash : ServiceId → UInt64)
    (outbox : σ) : (fresh policy cluster (.empty width hash) outbox).exports.Pends [] := by
  intro k
  simp [fresh, PendingPushes.slot?]

theorem pends_act {m : Mesh σ} {before : List Change} (h : m.exports.Pends before) (a : Action σ) :
    (m.act a).value.exports.Pends
      (if a.isDispatch then m.changesOf a else before ++ m.changesOf a) := by
  cases a with
  | edit x => exact h.editAll [x]
  | exports w call =>
    show ((ExportState.exportFeed.walking w).run m.exports call).state.Pends _
    rw [ExportState.state_exportFeed]
    exact h.editAll (call.writes w)
  | directory call => exact h.editAll []
  | dispatch w sink => exact pends_dispatchIn (m.batch w) m.directory sink m.exports m.outbox

theorem pends_run {m : Mesh σ} {before : List Change} (h : m.exports.Pends before)
    (actions : List (Action σ)) :
    (m.run actions).value.exports.Pends (m.changedSince before actions) := by
  induction actions generalizing m before with
  | nil => exact h
  | cons a as ih => exact ih (pends_act h a)

/-- The log of an action tells the changes that the table reports for its writes. -/
theorem reported_act (m : Mesh σ) (a : Action σ) : reported (m.act a).events = m.changesOf a := by
  cases a with
  | edit x => exact (ExportState.events_edit m.exports x).1.trans (List.append_nil _).symm
  | exports w call => exact ExportState.reported_exportFeed w m.exports call
  | directory call => exact (m.quiet_directory call).reported
  | dispatch w sink => exact reported_dispatchIn (m.batch w) m.directory sink m.exports m.outbox

theorem reported_run (m : Mesh σ) (actions : List (Action σ)) :
    reported (m.run actions).events = m.changes actions := by
  induction actions generalizing m with
  | nil => rfl
  | cons a as ih => rw [run, Traced.fold_cons_events, reported_append, reported_act, ← run, ih, changes]

theorem kept_act {P : ExportState → Prop} (h : ExportState.Kept P) {m : Mesh σ} (hm : P m.exports)
    (a : Action σ) : P (m.act a).value.exports := by
  cases a with
  | edit x => exact h.edit m.exports x hm
  | exports w call =>
    have hk : ExportState.exportFeed.Keeps fun e _ => P e :=
      ExportState.exportFeed_keeps (fun e x _ hp => h.edit e x hp) fun _ _ _ _ hp => hp
    exact @Feed.Keeps.run _ _ _ _ hk w call m.exports [] hm
  | directory call => exact hm
  | dispatch w sink => exact Round.kept_pushes h (h.detach m.exports hm) (m.batch w)

theorem kept_run {P : ExportState → Prop} (h : ExportState.Kept P) {m : Mesh σ} (hm : P m.exports)
    (actions : List (Action σ)) : P (m.run actions).value.exports :=
  Traced.fold_keeps_value act (P := fun m => P m.exports) (fun _ a hp => kept_act h hp a) hm actions

/-- A run takes its calls on the directory in order, and does nothing else to it. -/
theorem directory_run (m : Mesh σ) (actions : List (Action σ)) :
    (m.run actions).value.directory = m.directory.takeAll (actions.filterMap Action.call?) := by
  induction actions generalizing m with
  | nil => rfl
  | cons a as ih =>
    have hr := ih (m.act a).value
    cases a <;> exact hr

/-- A dispatch takes one push of a service at most. -/
theorem nodup_batch (m : Mesh σ) (w : Walk Change) : ((m.batch w).map Prod.fst).Nodup := by
  have hd := Std.ExtTreeMap.distinct_keys_toList (t := m.exports.pushes.slots)
  refine ((w.perm _).map Prod.fst).nodup_iff.mpr (List.pairwise_map.mpr ?_)
  refine hd.imp fun {a b} hne he => hne ?_
  rw [he]
  exact Std.compare_self

theorem nodup_signals (m : Mesh σ) (w : Walk Change) :
    (((m.batch w).filterMap (signalOf m.directory)).map (·.service)).Nodup := by
  have hd := List.pairwise_map.mp (m.nodup_batch w)
  refine List.pairwise_map.mpr (List.pairwise_filterMap.mpr (hd.imp ?_))
  intro slot slot' hne signal hs signal' hs' he
  rw [← slot_of_signalOf hs, ← slot_of_signalOf hs'] at hne
  exact hne he

theorem mem_batch (m : Mesh σ) (w : Walk Change) (service : ServiceId) (exported : Bool) :
    (service, exported) ∈ m.batch w ↔ m.exports.pushes.slot? service = some exported := by
  rw [batch, w.mem_order, Std.ExtTreeMap.mem_toList_iff_getElem?_eq_some, PendingPushes.slot?]

theorem filter_batch (m : Mesh σ) (w : Walk Change) (service : ServiceId) :
    (m.batch w).filter (·.1 = service) =
      ((m.exports.pushes.slot? service).map (service, ·)).toList := by
  cases hs : m.exports.pushes.slot? service with
  | none =>
    refine List.filter_eq_nil_iff.mpr fun c hc he => ?_
    have hm := (m.mem_batch w c.1 c.2).mp hc
    simp only [decide_eq_true_eq] at he
    rw [he, hs] at hm
    cases hm
  | some exported =>
    exact filter_service (m.nodup_batch w) ((m.mem_batch w service exported).mpr hs)

end Mesh
end MeshExport
