import MeshExport.Proofs.Mesh.Run

/-! Downstream does not diverge from the table unnoticed. A pending push tells the flag in the table; a
service without one was last told its flag, or never changed. In the middle of a dispatch the batch
still holds flags as they were when it was taken away, so the invariant speaks of the pushes the
dispatch has not come to: one whose flag is out of date has a newer push pending. -/

namespace MeshExport

def lastTold (service : ServiceId) (tried : List Change) : Option Bool :=
  (tried.filter (·.1 = service)).getLast?.map Prod.snd

theorem lastTold_snoc (service : ServiceId) (tried : List Change) (c : Change) :
    lastTold service (tried ++ [c]) = if c.1 = service then some c.2 else lastTold service tried := by
  unfold lastTold
  by_cases h : c.1 = service <;> simp [h]

theorem lastTold_append {service : ServiceId} {exported : Bool} {changes : List Change}
    (hd : (changes.map Prod.fst).Nodup) (hm : (service, exported) ∈ changes) (before : List Change) :
    lastTold service (before ++ changes) = some exported := by
  rw [lastTold, List.filter_append, filter_service hd hm, List.getLast?_concat]
  rfl

namespace ExportState

/-- Export state after the events `past`, while `rest` of a batch is still to be dispatched. -/
structure InSync (e : ExportState) (rest : List Change) (past : List Event) : Prop where
  /-- A pending push tells the flag in the table. -/
  pending : ∀ s b, e.pushes.slot? s = some b → e.isExported s = b
  /-- A service without a push, pending or to come, never changed or was last told its flag. -/
  told : ∀ s, e.pushes.slot? s = none → s ∉ rest.map Prod.fst →
    (s ∉ (reported past).map Prod.fst ∧ lastTold s (attempts past) = none ∧
        e.isExported s = false) ∨
      lastTold s (attempts past) = some (e.isExported s)
  /-- A push to come whose flag is out of date has a newer one pending. -/
  stale : ∀ s b, (s, b) ∈ rest → e.isExported s ≠ b → e.pushes.slot? s = some (e.isExported s)

namespace InSync

variable {e : ExportState} {rest : List Change} {past : List Event}

theorem newer (h : e.InSync rest past) {s : ServiceId} {b : Bool}
    (ht : lastTold s (attempts past) = some b) (hr : s ∉ rest.map Prod.fst)
    (hb : e.isExported s ≠ b) : e.pushes.slot? s = some (e.isExported s) := by
  cases hs : e.pushes.slot? s with
  | some b' => rw [h.pending s b' hs]
  | none =>
    rcases h.told s hs hr with ⟨-, hn, -⟩ | hl
    · rw [hn] at ht; cases ht
    · rw [hl, Option.some_inj] at ht
      exact absurd ht hb

theorem congr {e' : ExportState} (h : e.InSync rest past) (ha : e.Agrees e') :
    e'.InSync rest past := by
  refine ⟨fun s b hs => ?_, fun s hs hr => ?_, fun s b hm hb => ?_⟩
  · rw [ha.slot?] at hs
    rw [ha.isExported, h.pending s b hs]
  · rw [ha.slot?] at hs
    rw [ha.isExported]
    exact h.told s hs hr
  · rw [ha.isExported] at hb ⊢
    rw [ha.slot?, h.stale s b hm hb]

theorem quiet (h : e.InSync rest past) {later : List Event} (hq : Quiet later) :
    e.InSync rest (past ++ later) := by
  refine ⟨h.pending, fun s hs hr => ?_, h.stale⟩
  rw [reported_append, attempts_append, hq.reported, hq.attempts, List.append_nil, List.append_nil]
  exact h.told s hs hr

theorem edit (h : e.InSync rest past) (x : Edit) :
    (e.edit x).value.InSync rest (past ++ (e.edit x).events) := by
  obtain ⟨hreported, hattempts⟩ := events_edit e x
  have hslot := slot?_edit e x
  have hflag := isExported_edit e x
  cases hw : (e.table.write x).2 with
  | none =>
    -- nothing moved
    simp only [hw] at hslot hflag
    refine ⟨fun s b hs => ?_, fun s hs hr => ?_, fun s b hm hb => ?_⟩
    · rw [hflag]
      exact h.pending s b (by rwa [hslot] at hs)
    · rw [hflag, reported_append, attempts_append, hreported, hattempts, hw, Option.toList_none,
        List.append_nil, List.append_nil]
      exact h.told s (by rwa [hslot] at hs) hr
    · rw [hflag] at hb ⊢
      rw [hslot]
      exact h.stale s b hm hb
  | some c =>
    -- the flag of `c.1` moved, and its push tells the new one
    simp only [hw] at hslot hflag
    refine ⟨fun s b hs => ?_, fun s hs hr => ?_, fun s b hm hb => ?_⟩
    · rw [hslot] at hs
      rw [hflag]
      by_cases hc : c.1 = s
      · simpa [hc] using hs
      · rw [if_neg hc] at hs ⊢
        exact h.pending s b hs
    · rw [hslot] at hs
      rw [hflag, reported_append, attempts_append, hreported, hattempts, hw, List.append_nil]
      by_cases hc : c.1 = s
      · simp [hc] at hs
      · rw [if_neg hc] at hs ⊢
        rcases h.told s hs hr with ⟨hn, ht⟩ | ht
        · exact Or.inl ⟨by simpa [Ne.symm hc] using hn, ht⟩
        · exact Or.inr ht
    · rw [hflag] at hb ⊢
      rw [hslot]
      by_cases hc : c.1 = s
      · simp [hc]
      · rw [if_neg hc] at hb
        rw [if_neg hc, if_neg hc]
        exact h.stale s b hm hb

theorem editAll (h : e.InSync rest past) (edits : List Edit) :
    (e.editAll edits).value.InSync rest (past ++ (e.editAll edits).events) :=
  Traced.fold_keeps ExportState.edit (P := fun e past => e.InSync rest past)
    (fun _ x _ h => h.edit x) h edits

/-- Once its push was tried, a service has either been told its flag or has a newer push pending. -/
theorem tell {slot : Change} (h : e.InSync (slot :: rest) past) {event : Event}
    (ha : event.attempt? = some slot) (hc : event.change? = none) :
    e.InSync rest (past ++ [event]) := by
  have hreported : reported [event] = [] := by simp [reported, hc]
  have hattempts : attempts [event] = [slot] := by simp [attempts, ha]
  refine ⟨h.pending, fun s hs hr => ?_, fun s b hm hb => h.stale s b (List.mem_cons_of_mem _ hm) hb⟩
  rw [reported_append, attempts_append, hreported, hattempts, List.append_nil, lastTold_snoc]
  by_cases hc : slot.1 = s
  · -- a flag out of date would have left a newer push pending
    have hb : e.isExported s = slot.2 := by
      by_contra hb
      have hst := h.stale s slot.2 (by rw [← hc]; exact List.mem_cons_self) hb
      rw [hs] at hst
      cases hst
    exact Or.inr (by rw [if_pos hc, hb])
  · rw [if_neg hc]
    exact h.told s hs (by simpa [Ne.symm hc] using hr)

theorem detach (h : e.InSync [] past) {batch : List Change}
    (hb : ∀ s b, (s, b) ∈ batch ↔ e.pushes.slot? s = some b) :
    e.detach.InSync batch past := by
  have hnone (s : ServiceId) : e.detach.pushes.slot? s = none := PendingPushes.slot?_detach e.pushes s
  refine ⟨fun s b hs => ?_, fun s _ hr => ?_, fun s b hm hne => ?_⟩
  · rw [hnone] at hs; cases hs
  · refine h.told s ?_ List.not_mem_nil
    cases hs : e.pushes.slot? s with
    | none => rfl
    | some b => exact absurd (List.mem_map.mpr ⟨(s, b), (hb s b).mpr hs, rfl⟩) hr
  · exact absurd (h.pending s b ((hb s b).mp hm)) hne

end InSync
end ExportState

namespace Round

variable {σ : Type} (directory : Directory) (sink : Sink σ) {r : Round σ} {rest : List Change}
  {past : List Event}

/-- The signal of a push has been emitted, and the sink has made some writes. -/
theorem inSync_written {slot : Change} (h : r.exports.InSync (slot :: rest) past) {signal : Signal}
    (hs : signalOf directory slot = some signal) (edits : List Edit) :
    (r.exports.editAll edits).value.InSync rest
      (past ++ .pushed signal :: (r.exports.editAll edits).events) := by
  have ht : Event.attempt? (.pushed signal) = some slot := congrArg some (slot_of_signalOf hs)
  have he := (h.tell ht rfl).editAll edits
  rwa [List.append_assoc, List.singleton_append] at he

theorem inSync_push {slot : Change} (h : r.exports.InSync (slot :: rest) past) :
    (r.push directory sink slot).value.exports.InSync rest
      (past ++ (r.push directory sink slot).events) := by
  rcases push_cases directory sink r slot with ⟨error, -, hp⟩ | ⟨signal, hs, hp⟩
  · have ha : r.exports.Agrees r.exports.countUnresolved := ⟨rfl, rfl⟩
    rw [hp]
    exact (h.tell rfl rfl).congr ha
  · obtain ⟨later, he, hq⟩ := emit_events sink r signal
    have hw := (inSync_written directory h hs (sink r.outbox r.exports signal).edits).quiet hq
    rw [hp, he]
    rw [List.append_assoc, List.cons_append] at hw
    exact hw.congr (emit_agrees sink r signal)

theorem inSync_pushes {slots : List Change} (h : r.exports.InSync (slots ++ rest) past) :
    (Traced.fold (push directory sink) r slots).value.exports.InSync rest
      (past ++ (Traced.fold (push directory sink) r slots).events) := by
  induction slots generalizing r past with
  | nil => simpa using h
  | cons slot slots ih =>
    have hs : r.exports.InSync (slot :: (slots ++ rest)) past := h
    have hp := ih (inSync_push directory sink hs)
    rwa [List.append_assoc] at hp

end Round

namespace Mesh

variable {σ : Type}

theorem inSync_fresh (policy : Policy) (cluster : Cluster) (width : Nat)
    (hash : ServiceId → UInt64) (outbox : σ) :
    (fresh policy cluster (.empty width hash) outbox).exports.InSync [] [] := by
  refine ⟨fun s b hs => ?_, fun s _ _ => Or.inl ⟨List.not_mem_nil, rfl, ?_⟩, fun s b hm => ?_⟩
  · simp [fresh, PendingPushes.slot?] at hs
  · simp [fresh, ExportState.isExported, ExportTable.isExported, ExportTable.record?_empty]
  · cases hm

/-- A dispatch after the first `k` pushes of its batch. -/
def midway (m : Mesh σ) (w : Walk Change) (sink : Sink σ) (k : Nat) : Traced (Round σ) :=
  MeshExport.dispatchIn ((m.batch w).take k) m.directory sink m.exports m.outbox

theorem inSync_midway {m : Mesh σ} {past : List Event} (h : m.exports.InSync [] past)
    (w : Walk Change) (sink : Sink σ) (k : Nat) :
    (m.midway w sink k).value.exports.InSync ((m.batch w).drop k)
      (past ++ (m.midway w sink k).events) := by
  have hd := h.detach (m.mem_batch w)
  rw [← List.take_append_drop k (m.batch w)] at hd
  exact Round.inSync_pushes m.directory sink (r := ⟨m.exports.detach, m.outbox, 0⟩) hd

theorem midway_length (m : Mesh σ) (w : Walk Change) (sink : Sink σ) :
    m.midway w sink (m.batch w).length =
      MeshExport.dispatchIn (m.batch w) m.directory sink m.exports m.outbox := by
  rw [midway, List.take_length]

theorem inSync_act {m : Mesh σ} {past : List Event} (h : m.exports.InSync [] past) (a : Action σ) :
    (m.act a).value.exports.InSync [] (past ++ (m.act a).events) := by
  cases a with
  | edit x => exact h.edit x
  | exports w call =>
    exact (ExportState.exportFeed_keeps (P := fun e past => e.InSync [] past)
      (fun _ x _ h => h.edit x) fun _ _ _ hq h => h.quiet hq).run w call h
  | directory call => exact h.quiet (m.quiet_directory call)
  | dispatch w sink =>
    have hd := inSync_midway h w sink (m.batch w).length
    rwa [midway_length, List.drop_length] at hd

theorem inSync_run {m : Mesh σ} {past : List Event} (h : m.exports.InSync [] past)
    (actions : List (Action σ)) :
    (m.run actions).value.exports.InSync [] (past ++ (m.run actions).events) :=
  Traced.fold_keeps act (P := fun m past => m.exports.InSync [] past)
    (fun _ a _ h => inSync_act h a) h actions

/-- Export state is in sync after every run; in a dispatch that follows, after any number `k` of its
pushes; and while the sink handles the signal of the next one, after any number `j` of its writes. The
log tells the changes that the table has reported up to there. A push of the batch that told a flag now
out of date has left a newer one pending. From each of these points the dispatch goes on to where it
ends. -/
theorem told_or_pending (policy : Policy) (cluster : Cluster) (width : Nat)
    (hash : ServiceId → UInt64) (outbox : σ) (actions : List (Action σ)) (w : Walk Change)
    (sink : Sink σ) (k j : Nat) :
    let start := fresh policy cluster (.empty width hash) outbox
    let past := start.run actions
    let m := past.value
    let batch := m.batch w
    let round := m.midway w sink k
    (reported past.events = start.changes actions ∧ m.exports.InSync [] past.events) ∧
      (reported round.events = m.exports.table.reports
          (writesIn (batch.take k) m.directory sink m.exports m.outbox) ∧
        round.value.exports.InSync (batch.drop k) (past.events ++ round.events)) ∧
      (∀ slot signal, batch[k]? = some slot → signalOf m.directory slot = some signal →
        let edits := (sink round.value.outbox round.value.exports signal).edits.take j
        let within := round.value.exports.editAll edits
        reported within.events = round.value.exports.table.reports edits ∧
          within.value.InSync (batch.drop (k + 1))
            (past.events ++ round.events ++ .pushed signal :: within.events)) ∧
      (∀ slot ∈ batch.take k, round.value.exports.isExported slot.1 ≠ slot.2 →
        round.value.exports.pushes.slot? slot.1 =
          some (round.value.exports.isExported slot.1)) ∧
      (MeshExport.dispatchIn batch m.directory sink m.exports m.outbox).value =
        (Traced.fold (Round.push m.directory sink) round.value (batch.drop k)).value := by
  intro start past m batch round
  have hm : m.exports.InSync [] past.events :=
    inSync_run (inSync_fresh policy cluster width hash outbox) actions
  have hr : round.value.exports.InSync (batch.drop k) (past.events ++ round.events) :=
    inSync_midway hm w sink k
  refine ⟨⟨start.reported_run actions, hm⟩, ⟨reported_dispatchIn .., hr⟩, fun slot signal hk hs => ?_,
    fun slot hs hb => ?_, ?_⟩
  · obtain ⟨hlt, hslot⟩ := List.getElem?_eq_some_iff.mp hk
    rw [List.drop_eq_getElem_cons hlt, hslot] at hr
    exact ⟨ExportState.reported_editAll .., Round.inSync_written m.directory hr hs _⟩
  · -- a service has one push in the batch, so the one that was tried is the last it was told
    have hd : ((batch.take k ++ batch.drop k).map Prod.fst).Nodup := by
      rw [List.take_append_drop]
      exact m.nodup_batch w
    rw [List.map_append, List.nodup_append'] at hd
    obtain ⟨htake, -, hdisjoint⟩ := hd
    have ha : attempts round.events = batch.take k := attempts_dispatchIn ..
    have ht : lastTold slot.1 (attempts (past.events ++ round.events)) = some slot.2 := by
      rw [attempts_append, ha]
      exact lastTold_append htake hs _
    exact hr.newer ht (hdisjoint (List.mem_map_of_mem hs)) hb
  · have hf := Traced.fold_append_value (Round.push m.directory sink)
      ⟨m.exports.detach, m.outbox, 0⟩ (batch.take k) (batch.drop k)
    rwa [List.take_append_drop] at hf

end Mesh
end MeshExport
