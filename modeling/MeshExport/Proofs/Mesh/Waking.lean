import MeshExport.Proofs.Exports.Edits
import MeshExport.Proofs.Mesh.Run

/-! No wake-up is lost. A change that is folded into a pending push wakes nobody, so a push may wait only
while the wake-up of the change that opened it is outstanding: kept as a permit, or handed to the
dispatcher. The dispatcher takes a permit before it takes the pushes away, and a dispatch by someone else
leaves the permit where it is; so whenever the dispatcher waits, nothing is pending. -/

namespace MeshExport

/-- A pending push has a wake-up outstanding. -/
structure PendingPushes.Watched (p : PendingPushes) : Prop where
  woken : p.slots ≠ ∅ → p.wake.permit = true ∨ p.wake.dispatcher = .notified
  /-- A dispatcher that waits has left no permit behind. -/
  waiting : p.wake.dispatcher = .waiting → p.wake.permit = false

namespace PendingPushes

theorem watched_of_empty {p : PendingPushes} (hs : p.slots = ∅) (hw : p.wake.dispatcher ≠ .waiting) :
    p.Watched :=
  ⟨fun hne => absurd hs hne, fun h => absurd h hw⟩

/-- The push that was pending already has a wake-up outstanding; a new one brings its own. -/
theorem Watched.request {p : PendingPushes} (h : p.Watched) (service : ServiceId) (exported : Bool) :
    (p.request service exported).value.Watched := by
  simp only [PendingPushes.request]
  split
  · rename_i hm
    have hne : p.slots ≠ ∅ := by
      rintro he
      simp [he] at hm
    exact ⟨fun _ => h.woken hne, h.waiting⟩
  · refine ⟨fun _ => ?_, fun hw => ?_⟩
    · cases hd : p.wake.dispatcher <;> simp [Wake.notify, hd]
    · cases hd : p.wake.dispatcher <;> simp [Wake.notify, hd] at hw

theorem wake_request (p : PendingPushes) {service : ServiceId} (hs : (p.slot? service).isSome)
    (exported : Bool) : (p.request service exported).value.wake = p.wake := by
  have hm : service ∈ p.slots := Std.ExtTreeMap.mem_iff_isSome_getElem?.mpr hs
  rw [request, if_pos hm]

theorem Watched.stop {p : PendingPushes} (h : p.Watched) :
    ({ p with wake := p.wake.stop } : PendingPushes).Watched := by
  refine ⟨fun hne => ?_, fun hw => by cases hw⟩
  rcases h.woken hne with hp | hd
  · exact .inl (by simp [Wake.stop, hp])
  · exact .inl (by simp [Wake.stop, hd])

end PendingPushes

namespace ExportState

theorem kept_watched : Kept fun e => e.pushes.Watched where
  edit e x h := by
    rcases edit_cases e x with ⟨c, -, hx⟩ | ⟨later, -, -, -, hx⟩
    · rw [hx]
      exact h.request c.1 c.2
    · rwa [hx]
  detach e h := ⟨fun hne => absurd rfl hne, h.waiting⟩
  countEmitted _ h := ⟨h.woken, h.waiting⟩
  countUnresolved _ h := ⟨h.woken, h.waiting⟩

theorem kept_idle : Kept fun e => e.pushes.wake.dispatcher = .idle where
  edit e x h := by
    rcases edit_cases e x with ⟨c, -, hx⟩ | ⟨later, -, -, -, hx⟩
    · rw [hx]
      show (e.pushes.request c.1 c.2).value.wake.dispatcher = .idle
      simp only [PendingPushes.request]
      split
      · exact h
      · simp [Wake.notify, h]
    · rwa [hx]
  detach _ h := h
  countEmitted _ h := h
  countUnresolved _ h := h

theorem wake_edit (e : ExportState) {x : Edit} (hs : (e.pushes.slot? x.service).isSome) :
    (e.edit x).value.pushes.wake = e.pushes.wake := by
  rw [value_edit, ExportTable.change_write]
  cases x.told (e.table.record? x.service) with
  | none => rfl
  | some exported => exact e.pushes.wake_request hs exported

end ExportState

namespace Dispatcher

variable {σ : Type} (walks : Nat → Walk Change) (directory : Directory) (sink : Sink σ)

def roundIn (w : Walk Change) (e : ExportState) (outbox : σ) : Traced (ExportState × σ) := do
  let r ← dispatchIn (w.order e.pushes.slots.toList) directory sink e outbox
  Traced.emit (.dispatched r.sent)
  return (r.exports, r.outbox)

/-- The same as `settle`, with an order for each round. -/
def settleIn : Nat → ExportState × σ → Traced (ExportState × σ)
  | rounds, (e, outbox) =>
    if e.pushes.wake.permit then
      match rounds with
      | 0 => pure (e.withWake ⟨false, .notified⟩, outbox)
      | rounds + 1 => do
        let next ← roundIn directory sink (walks rounds) (e.withWake ⟨false, .idle⟩) outbox
        settleIn rounds next
    else pure (e.withWake ⟨false, .waiting⟩, outbox)

def pollIn (rounds : Nat) (e : ExportState) (outbox : σ) : Traced (ExportState × σ) :=
  match e.pushes.wake.dispatcher with
  | .waiting => pure (e, outbox)
  | .idle => settleIn walks directory sink rounds (e, outbox)
  | .notified => do
    let next ← roundIn directory sink (walks rounds) (e.withWake ⟨e.pushes.wake.permit, .idle⟩) outbox
    settleIn walks directory sink rounds next

theorem settle_eq (rounds : Nat) (s : ExportState × σ) :
    settle directory sink rounds s = settleIn (fun _ => .listed) directory sink rounds s := by
  induction rounds generalizing s with
  | zero => rfl
  | succ rounds ih =>
    simp only [settle, settleIn, ih]
    rfl

theorem poll_eq (rounds : Nat) (e : ExportState) (outbox : σ) :
    poll directory sink rounds e outbox =
      pollIn (fun _ => .listed) directory sink rounds e outbox := by
  simp only [poll, pollIn, settle_eq]
  rfl

/-- A round takes all pushes away. What it leaves pending was asked for since, and has its wake-up. -/
theorem watched_round (w : Walk Change) {e : ExportState} (h : e.pushes.wake.dispatcher = .idle)
    (outbox : σ) :
    (roundIn directory sink w e outbox).value.1.pushes.Watched ∧
      (roundIn directory sink w e outbox).value.1.pushes.wake.dispatcher = .idle := by
  have hstart : e.detach.pushes.Watched := by
    refine PendingPushes.watched_of_empty rfl fun hw => ?_
    rw [ExportState.detach, PendingPushes.detach, h] at hw
    cases hw
  exact ⟨Round.kept_pushes (r := ⟨e.detach, outbox, 0⟩) ExportState.kept_watched hstart _,
    Round.kept_pushes (r := ⟨e.detach, outbox, 0⟩) ExportState.kept_idle h _⟩

/-- Where there is no permit, nothing is pending, and the dispatcher may go to sleep. -/
theorem watched_asleep {e : ExportState} (h : e.pushes.Watched)
    (hd : e.pushes.wake.dispatcher = .idle) (hp : ¬ e.pushes.wake.permit = true) :
    (e.withWake ⟨false, .waiting⟩).pushes.Watched := by
  refine ⟨fun hne => ?_, fun _ => rfl⟩
  rcases h.woken hne with hpermit | hnotified
  · exact absurd hpermit hp
  · rw [hd] at hnotified
    cases hnotified

theorem watched_settle (rounds : Nat) {s : ExportState × σ} (h : s.1.pushes.Watched)
    (hd : s.1.pushes.wake.dispatcher = .idle) :
    (settleIn walks directory sink rounds s).value.1.pushes.Watched := by
  induction rounds generalizing s with
  | zero =>
    rw [settleIn]
    split
    · exact ⟨fun _ => .inr rfl, fun hw => by cases hw⟩
    · exact watched_asleep h hd ‹_›
  | succ rounds ih =>
    rw [settleIn]
    split
    · have hawake : (s.1.withWake ⟨false, .idle⟩).pushes.wake.dispatcher = .idle := rfl
      obtain ⟨hnext, hidle⟩ := watched_round directory sink (walks rounds) hawake s.2
      exact ih hnext hidle
    · exact watched_asleep h hd ‹_›

theorem watched_poll (rounds : Nat) {e : ExportState} (h : e.pushes.Watched) (outbox : σ) :
    (pollIn walks directory sink rounds e outbox).value.1.pushes.Watched := by
  cases hd : e.pushes.wake.dispatcher with
  | waiting =>
    simp only [pollIn, hd]
    exact h
  | idle =>
    simp only [pollIn, hd]
    exact watched_settle walks directory sink rounds h hd
  | notified =>
    simp only [pollIn, hd]
    have hawake : (e.withWake ⟨e.pushes.wake.permit, .idle⟩).pushes.wake.dispatcher = .idle := rfl
    obtain ⟨hnext, hidle⟩ := watched_round directory sink (walks rounds) hawake outbox
    exact watched_settle walks directory sink rounds hnext hidle

end Dispatcher

/-- What happens to a mesh with a dispatcher: writes, calls and dispatches, pushes asked for from
outside, and the dispatcher running until it waits or for a number of rounds, or being dropped. -/
inductive Operation (σ : Type) where
  | act (a : Action σ)
  | request (service : ServiceId) (exported : Bool)
  | poll (walks : Nat → Walk Change) (sink : Sink σ) (rounds : Nat)
  | stop

namespace Mesh

variable {σ : Type}

def operate (m : Mesh σ) : Operation σ → Traced (Mesh σ)
  | .act a => m.act a
  | .request service exported => m.request service exported
  | .poll walks sink rounds =>
    (fun r => { m with exports := r.1, outbox := r.2 }) <$>
      Dispatcher.pollIn walks m.directory sink rounds m.exports m.outbox
  | .stop => pure m.stopDispatcher

def operateAll (m : Mesh σ) (operations : List (Operation σ)) : Traced (Mesh σ) :=
  Traced.fold operate m operations

theorem watched_operate (m : Mesh σ) (x : Operation σ) (h : m.exports.pushes.Watched) :
    (m.operate x).value.exports.pushes.Watched := by
  cases x with
  | act a => exact kept_act ExportState.kept_watched h a
  | request service exported => exact h.request service exported
  | poll walks sink rounds => exact Dispatcher.watched_poll walks m.directory sink rounds h m.outbox
  | stop => exact h.stop

/-- The dispatcher runs as an operation does, where the pushes are walked as their table lists them. -/
theorem operate_poll (m : Mesh σ) (sink : Sink σ) (rounds : Nat) :
    m.operate (.poll (fun _ => .listed) sink rounds) = m.poll sink rounds := by
  rw [operate, poll, Dispatcher.poll_eq]

/-- After any operations, a pending push has left a permit or a dispatcher that was notified, and a
dispatcher that waits has nothing pending. A change of a service whose push is pending wakes nobody, and
needs not. -/
theorem pending_has_wakeup (policy : Policy) (cluster : Cluster) (width : Nat)
    (hash : ServiceId → UInt64) (outbox : σ) (operations : List (Operation σ)) :
    let e := ((fresh policy cluster (.empty width hash) outbox).operateAll operations).value.exports
    (e.pushes.size ≠ 0 → e.pushes.wake.permit = true ∨ e.pushes.wake.dispatcher = .notified) ∧
      (e.pushes.wake.dispatcher = .waiting → e.pushes.wake.permit = false ∧ e.pushes.size = 0) ∧
      (∀ service exported, (e.pushes.slot? service).isSome →
        (e.request service exported).value.pushes.wake = e.pushes.wake) ∧
      ∀ x : Edit, (e.pushes.slot? x.service).isSome →
        (e.edit x).value.pushes.wake = e.pushes.wake := by
  intro e
  have hstart : (fresh policy cluster (.empty width hash) outbox).exports.pushes.Watched :=
    PendingPushes.watched_of_empty rfl fun hw => by cases hw
  have h : e.pushes.Watched :=
    Traced.fold_keeps_value operate (P := fun m => m.exports.pushes.Watched)
      (fun m x hm => m.watched_operate x hm) hstart operations
  have hwoken (hs : e.pushes.size ≠ 0) :
      e.pushes.wake.permit = true ∨ e.pushes.wake.dispatcher = .notified := by
    refine h.woken fun he => hs ?_
    rw [PendingPushes.size, he]
    exact Std.ExtTreeMap.size_empty
  refine ⟨hwoken, fun hw => ⟨h.waiting hw, ?_⟩, fun service exported hs => ?_, fun x hs => ?_⟩
  · by_contra hs
    rcases hwoken hs with hp | hn
    · rw [h.waiting hw] at hp
      cases hp
    · rw [hw] at hn
      cases hn
  · exact e.pushes.wake_request hs exported
  · exact e.wake_edit hs

end Mesh
end MeshExport
