import MeshExport.Proofs.Exports.Reports
import MeshExport.Push.Dispatch

/-! What a dispatch shows of its batch: it tries every push of the batch once, in order, and emits a
signal for those whose service the directory resolves. The sink may write export state meanwhile; the
writes it makes do not touch the batch, and what the table reports for them is pending afterwards. -/

namespace MeshExport

namespace ExportState

theorem counts_change (e : ExportState) (service : ServiceId) (exported : Bool) :
    (e.change service exported).value.pushes.emitted = e.pushes.emitted ∧
      (e.change service exported).value.pushes.unresolved = e.pushes.unresolved := by
  simp only [change, Traced.bind_value, request, Traced.map_value, PendingPushes.request]
  split <;> exact ⟨rfl, rfl⟩

theorem counts_edit (e : ExportState) (x : Edit) :
    (e.edit x).value.pushes.emitted = e.pushes.emitted ∧
      (e.edit x).value.pushes.unresolved = e.pushes.unresolved := by
  rw [value_edit]
  cases (e.table.write x).2 with
  | none => exact ⟨rfl, rfl⟩
  | some c => exact counts_change ..

theorem counts_editAll (e : ExportState) (edits : List Edit) :
    (e.editAll edits).value.pushes.emitted = e.pushes.emitted ∧
      (e.editAll edits).value.pushes.unresolved = e.pushes.unresolved := by
  induction edits generalizing e with
  | nil => exact ⟨rfl, rfl⟩
  | cons x xs ih =>
    obtain ⟨he, hu⟩ := ih (e.edit x).value
    obtain ⟨hxe, hxu⟩ := counts_edit e x
    exact ⟨he.trans hxe, hu.trans hxu⟩

structure Kept (P : ExportState → Prop) : Prop where
  edit : ∀ e x, P e → P (e.edit x).value
  detach : ∀ e, P e → P e.detach
  countEmitted : ∀ e, P e → P e.countEmitted
  countUnresolved : ∀ e, P e → P e.countUnresolved

theorem Kept.editAll {P : ExportState → Prop} (h : Kept P) {e : ExportState} (he : P e)
    (edits : List Edit) : P (e.editAll edits).value :=
  Traced.fold_keeps_value ExportState.edit h.edit he edits

end ExportState

def signalOf (directory : Directory) (slot : Change) : Option Signal :=
  match directory.resolve slot.1 with
  | .ok endpoints => some ⟨slot.1, directory.hostname slot.1, endpoints, slot.2⟩
  | .error _ => none

theorem slot_of_signalOf {directory : Directory} {slot : Change} {signal : Signal}
    (h : signalOf directory slot = some signal) : (signal.service, signal.exported) = slot := by
  unfold signalOf at h
  split at h
  · cases h; rfl
  · cases h

namespace Round

variable {σ : Type} (directory : Directory) (sink : Sink σ) (r : Round σ)

/-- A push is skipped, or its signal is emitted. -/
theorem push_cases (slot : Change) :
    (∃ error, signalOf directory slot = none ∧
      r.push directory sink slot =
        ⟨{ r with exports := r.exports.countUnresolved }, [.unresolved slot.1 slot.2 error]⟩) ∨
    ∃ signal, signalOf directory slot = some signal ∧
      r.push directory sink slot = r.emit sink signal := by
  cases h : directory.resolve slot.1 with
  | error error => exact .inl ⟨error, by simp only [signalOf, h], by simp only [push, h]⟩
  | ok endpoints => exact .inr ⟨_, by simp only [signalOf, h]; rfl, by simp only [push, h]⟩

def written (signal : Signal) : Traced ExportState :=
  r.exports.editAll (sink r.outbox r.exports signal).edits

def writesOf (slot : Change) : List Edit :=
  (signalOf directory slot).elim [] fun signal => (sink r.outbox r.exports signal).edits

def writes (r : Round σ) : List Change → List Edit
  | [] => []
  | slot :: slots => r.writesOf directory sink slot ++ writes (r.push directory sink slot).value slots

/-- Besides the signal, an emission shows the writes of the sink and a lost signal. -/
theorem emit_events (signal : Signal) :
    ∃ rest, (r.emit sink signal).events = .pushed signal :: ((r.written sink signal).events ++ rest) ∧
      Quiet rest :=
  ⟨_, rfl, .append (.emitIf _ rfl rfl) .nil⟩

theorem emit_agrees (signal : Signal) :
    (r.written sink signal).value.Agrees (r.emit sink signal).value.exports := ⟨rfl, rfl⟩

theorem reported_emit (signal : Signal) :
    reported (r.emit sink signal).events = reported (r.written sink signal).events := by
  obtain ⟨rest, he, hq⟩ := emit_events sink r signal
  rw [he]
  show reported ((r.written sink signal).events ++ rest) = _
  rw [reported_append, hq.reported, List.append_nil]

theorem push_agrees (slot : Change) :
    (r.exports.editAll (r.writesOf directory sink slot)).value.Agrees
      (r.push directory sink slot).value.exports := by
  rcases push_cases directory sink r slot with ⟨error, hs, hp⟩ | ⟨signal, hs, hp⟩
  · rw [hp, writesOf, hs]
    exact ⟨rfl, rfl⟩
  · rw [hp, writesOf, hs]
    exact emit_agrees sink r signal

theorem table_push (slot : Change) :
    (r.push directory sink slot).value.exports.table =
      r.exports.table.writeAll (r.writesOf directory sink slot) := by
  rw [(push_agrees directory sink r slot).table, ExportState.table_editAll]

theorem reported_push (slot : Change) :
    reported (r.push directory sink slot).events =
      r.exports.table.reports (r.writesOf directory sink slot) := by
  rcases push_cases directory sink r slot with ⟨error, hs, hp⟩ | ⟨signal, hs, hp⟩
  · rw [hp, writesOf, hs]
    rfl
  · rw [hp, writesOf, hs, reported_emit, written, ExportState.reported_editAll]
    rfl

theorem attempts_emit (signal : Signal) :
    attempts (r.emit sink signal).events = [(signal.service, signal.exported)] := by
  obtain ⟨rest, he, hq⟩ := emit_events sink r signal
  rw [he]
  show _ :: attempts ((r.written sink signal).events ++ rest) = _
  rw [attempts_append, hq.attempts, written, ExportState.attempts_editAll]
  rfl

theorem signals_emit (signal : Signal) : signals (r.emit sink signal).events = [signal] := by
  obtain ⟨rest, he, -⟩ := emit_events sink r signal
  have ha := attempts_emit sink r signal
  rw [he] at ha ⊢
  have hn : attempts ((r.written sink signal).events ++ rest) = [] := (List.cons.inj ha).2
  show signal :: signals ((r.written sink signal).events ++ rest) = [signal]
  rw [signals_eq_nil hn]

theorem attempts_push (slot : Change) : attempts (r.push directory sink slot).events = [slot] := by
  rcases push_cases directory sink r slot with ⟨error, -, hp⟩ | ⟨signal, hs, hp⟩
  · rw [hp]
    rfl
  · rw [hp, attempts_emit, slot_of_signalOf hs]

theorem signals_push (slot : Change) :
    signals (r.push directory sink slot).events = (signalOf directory slot).toList := by
  rcases push_cases directory sink r slot with ⟨error, hs, hp⟩ | ⟨signal, hs, hp⟩
  · rw [hp, hs]
    rfl
  · rw [hp, hs, signals_emit]
    rfl

theorem received_push (slot : Change) : received (r.push directory sink slot).events = [] := by
  rcases push_cases directory sink r slot with ⟨error, -, hp⟩ | ⟨signal, -, hp⟩
  · rw [hp]
    rfl
  · have hw : received (r.written sink signal).events = [] := ExportState.received_editAll ..
    rw [hp]
    show received ((r.written sink signal).events ++ ((Traced.emitIf _ _).events ++ [])) = []
    rw [received_append, hw]
    cases (sink r.outbox r.exports signal).lost <;> rfl

theorem sent_push (slot : Change) :
    (r.push directory sink slot).value.sent = r.sent + (signalOf directory slot).toList.length := by
  rcases push_cases directory sink r slot with ⟨error, hs, hp⟩ | ⟨signal, hs, hp⟩ <;>
    rw [hp, hs] <;> rfl

/-- Each push is counted once, as a signal or as skipped. -/
theorem counts_push (slot : Change) :
    (r.push directory sink slot).value.exports.pushes.emitted =
        r.exports.pushes.emitted + (signalOf directory slot).toList.length ∧
      (r.push directory sink slot).value.exports.pushes.unresolved +
          (signalOf directory slot).toList.length =
        r.exports.pushes.unresolved + 1 := by
  rcases push_cases directory sink r slot with ⟨error, hs, hp⟩ | ⟨signal, hs, hp⟩
  · rw [hp, hs]
    exact ⟨rfl, rfl⟩
  · rw [hp, hs]
    obtain ⟨he, hu⟩ := ExportState.counts_editAll r.exports (sink r.outbox r.exports signal).edits
    exact ⟨congrArg (· + 1) he, congrArg (· + 1) hu⟩

variable {directory sink r}

/-- Pushes leave the records and pending pushes where the sink's writes bring them. -/
theorem pushes_agrees (slots : List Change) :
    (r.exports.editAll (r.writes directory sink slots)).value.Agrees
      (Traced.fold (push directory sink) r slots).value.exports := by
  induction slots generalizing r with
  | nil => exact ⟨rfl, rfl⟩
  | cons slot slots ih =>
    rw [writes, ExportState.editAll, Traced.fold_append_value]
    exact ((push_agrees directory sink r slot).editAll _).trans ih

/-- The log of pushes tells what the table reports for the writes of the sink. -/
theorem reported_pushes (slots : List Change) :
    reported (Traced.fold (push directory sink) r slots).events =
      r.exports.table.reports (r.writes directory sink slots) := by
  induction slots generalizing r with
  | nil => rfl
  | cons slot slots ih =>
    rw [Traced.fold_cons_events, reported_append, reported_push, ih, table_push, writes,
      ExportTable.reports_append]

theorem writes_of_silent (hw : ∀ outbox e signal, (sink outbox e signal).edits = [])
    (slots : List Change) : r.writes directory sink slots = [] := by
  induction slots generalizing r with
  | nil => rfl
  | cons slot slots ih =>
    rw [writes, ih, writesOf]
    cases signalOf directory slot with
    | none => rfl
    | some signal => exact congrArg (· ++ []) (hw ..)

theorem kept_push {P : ExportState → Prop} (h : ExportState.Kept P) (hr : P r.exports)
    (slot : Change) : P (r.push directory sink slot).value.exports := by
  rcases push_cases directory sink r slot with ⟨error, -, hp⟩ | ⟨signal, -, hp⟩
  · rw [hp]
    exact h.countUnresolved r.exports hr
  · rw [hp]
    exact h.countEmitted _ (h.editAll hr (sink r.outbox r.exports signal).edits)

theorem kept_pushes {P : ExportState → Prop} (h : ExportState.Kept P) (hr : P r.exports)
    (slots : List Change) : P (Traced.fold (push directory sink) r slots).value.exports :=
  Traced.fold_keeps_value (push directory sink) (P := fun r => P r.exports)
    (fun _ slot hp => kept_push h hp slot) hr slots

theorem attempts_pushes (slots : List Change) :
    attempts (Traced.fold (push directory sink) r slots).events = slots := by
  have h := Traced.filterMap_events_fold _ (attempts_push directory sink) r slots
  rwa [List.flatMap_singleton'] at h

theorem signals_pushes (slots : List Change) :
    signals (Traced.fold (push directory sink) r slots).events =
      slots.filterMap (signalOf directory) := by
  rw [List.filterMap_eq_flatMap_toList]
  exact Traced.filterMap_events_fold _ (signals_push directory sink) r slots

theorem received_pushes (slots : List Change) :
    received (Traced.fold (push directory sink) r slots).events = [] :=
  Traced.filterMap_events_fold_nil _ (received_push directory sink) r slots

theorem sent_pushes (slots : List Change) :
    (Traced.fold (push directory sink) r slots).value.sent =
      r.sent + (slots.filterMap (signalOf directory)).length := by
  induction slots generalizing r with
  | nil => rfl
  | cons slot slots ih =>
    rw [Traced.fold_cons_value, ih, sent_push, List.filterMap_cons]
    cases signalOf directory slot with
    | none => rfl
    | some signal =>
      simp only [Option.toList_some, List.length_cons, List.length_nil]
      omega

theorem counts_pushes (slots : List Change) :
    (Traced.fold (push directory sink) r slots).value.exports.pushes.emitted =
        r.exports.pushes.emitted + (slots.filterMap (signalOf directory)).length ∧
      (Traced.fold (push directory sink) r slots).value.exports.pushes.unresolved +
          (slots.filterMap (signalOf directory)).length =
        r.exports.pushes.unresolved + slots.length := by
  induction slots generalizing r with
  | nil => exact ⟨rfl, rfl⟩
  | cons slot slots ih =>
    obtain ⟨he, hu⟩ := ih (r := (r.push directory sink slot).value)
    obtain ⟨hpe, hpu⟩ := counts_push directory sink r slot
    rw [Traced.fold_cons_value, List.length_cons]
    cases hs : signalOf directory slot with
    | none =>
      rw [List.filterMap_cons_none hs]
      simp only [hs, Option.toList_none, List.length_nil] at hpe hpu
      exact ⟨by omega, by omega⟩
    | some signal =>
      rw [List.filterMap_cons_some hs, List.length_cons]
      simp only [hs, Option.toList_some, List.length_cons, List.length_nil] at hpe hpu
      exact ⟨by omega, by omega⟩

end Round

/-- The same sink, keeping every signal it is handed. -/
def Sink.recorded {σ : Type} (sink : Sink σ) : Sink (σ × List Signal) := fun outbox e signal =>
  let response := sink outbox.1 e signal
  { state := (response.state, outbox.2 ++ [signal]), edits := response.edits, lost := response.lost }

theorem Round.recorded_pushes {σ : Type} (directory : Directory) (sink : Sink σ) (slots : List Change)
    (e : ExportState) (outbox : σ) (kept : List Signal) (sent : Nat) :
    (Traced.fold (push directory sink.recorded) ⟨e, (outbox, kept), sent⟩ slots).value.outbox.2 =
      kept ++ slots.filterMap (signalOf directory) := by
  induction slots generalizing e outbox kept sent with
  | nil => simp
  | cons slot slots ih =>
    rw [Traced.fold_cons_value, List.filterMap_cons]
    cases h : directory.resolve slot.1 with
    | error error => simp only [push, signalOf, h, ih]
    | ok endpoints =>
      simp only [push, signalOf, h]
      exact (ih ..).trans (List.append_assoc ..)

section dispatch

variable {σ : Type} (batch : List Change) (directory : Directory) (sink : Sink σ) (e : ExportState)
  (outbox : σ)

theorem attempts_dispatchIn :
    attempts (dispatchIn batch directory sink e outbox).events = batch := Round.attempts_pushes batch

theorem signals_dispatchIn :
    signals (dispatchIn batch directory sink e outbox).events =
      batch.filterMap (signalOf directory) := Round.signals_pushes batch

theorem sent_dispatchIn :
    (dispatchIn batch directory sink e outbox).value.sent =
      (batch.filterMap (signalOf directory)).length := by
  rw [dispatchIn, Round.sent_pushes, Nat.zero_add]

theorem emitted_dispatchIn :
    (dispatchIn batch directory sink e outbox).value.exports.pushes.emitted =
      e.pushes.emitted + (batch.filterMap (signalOf directory)).length :=
  (Round.counts_pushes batch).1

theorem unresolved_dispatchIn :
    (dispatchIn batch directory sink e outbox).value.exports.pushes.unresolved +
        (batch.filterMap (signalOf directory)).length =
      e.pushes.unresolved + batch.length :=
  (Round.counts_pushes batch).2

/-- The writes the sink makes in the course of a dispatch. -/
def writesIn : List Edit := Round.writes directory sink ⟨e.detach, outbox, 0⟩ batch

theorem dispatchIn_agrees :
    (e.detach.editAll (writesIn batch directory sink e outbox)).value.Agrees
      (dispatchIn batch directory sink e outbox).value.exports :=
  Round.pushes_agrees (r := ⟨e.detach, outbox, 0⟩) batch

/-- After a dispatch exactly the changes its sink has caused are pending. -/
theorem pends_dispatchIn :
    (dispatchIn batch directory sink e outbox).value.exports.Pends
      (e.table.reports (writesIn batch directory sink e outbox)) := by
  have hd : e.detach.Pends [] := fun k => PendingPushes.slot?_detach e.pushes k
  exact (hd.editAll _).congr (dispatchIn_agrees batch directory sink e outbox)

theorem reported_dispatchIn :
    reported (dispatchIn batch directory sink e outbox).events =
      e.table.reports (writesIn batch directory sink e outbox) :=
  Round.reported_pushes batch

theorem recorded_dispatchIn :
    (dispatchIn batch directory sink.recorded e (outbox, [])).value.outbox.2 =
      batch.filterMap (signalOf directory) := by
  rw [dispatchIn, Round.recorded_pushes, List.nil_append]

end dispatch
end MeshExport
