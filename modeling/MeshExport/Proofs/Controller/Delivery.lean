import MeshExport.Proofs.Controller.Run
import MeshExport.Proofs.Mesh.Balance
import MeshExport.Proofs.Mesh.Changes
import MeshExport.Proofs.Mesh.Dispatch

/-! The push that tells the last change of a service. A change makes a push pending, and the first
dispatch that begins after it tries the push, once and with the flag the service has kept since. That
dispatch alone decides: it emits the signal if the directory resolves the service there and then, and
skips it otherwise, and what the directory learns later makes no difference. -/

namespace MeshExport
namespace Controller

theorem follows_act (c : Controller) (a : Action) (k : ServiceId) :
    (if a.isDispatch then c.exports.detach else c.exports).Follows k (c.act a).value.exports
      (c.changesOf a) := by
  rcases act_cases c a with ⟨n, rfl⟩ | ⟨x, hx, hxa, hd⟩ | ⟨hx, ha, hd⟩
  · exact .refl k c.exports
  · have h := c.mesh.follows_act x k
    have he : (c.act a).value.exports = (c.mesh.act x).value.exports := congrArg Mesh.exports hd.mesh
    rw [hxa] at h
    rw [changesOf, hx, he]
    exact h
  · have he : (c.act a).value.exports = c.exports := congrArg Mesh.exports hd.mesh
    rw [ha, changesOf, hx, he]
    exact .refl k c.exports

theorem attempts_act (c : Controller) {a : Action} (ha : a.isDispatch = false) :
    attempts (c.act a).events = [] := by
  rcases act_cases c a with ⟨n, rfl⟩ | ⟨x, -, hxa, hd⟩ | ⟨-, -, hd⟩
  · exact (c.quiet_receive n).attempts
  · rw [hd.events, c.mesh.attempts_act (hxa.trans ha)]
  · rw [hd.events]
    rfl

/-- Of one service a dispatch tries the pending push, and nothing else tries any. -/
theorem filter_attempts_act (c : Controller) (a : Action) (k : ServiceId) :
    (attempts (c.act a).events).filter (·.1 = k) =
      if a.isDispatch then ((c.exports.pushes.slot? k).map (k, ·)).toList else [] := by
  cases ha : a.isDispatch with
  | false =>
    rw [c.attempts_act ha]
    rfl
  | true =>
    cases a with
    | dispatch w writes =>
      have hb : attempts (c.act (.dispatch w writes)).events = c.mesh.batch w := attempts_dispatchIn ..
      rw [hb, c.mesh.filter_batch, if_pos rfl]
      rfl
    | _ => cases ha

theorem run_append_value (c : Controller) (xs ys : List Action) :
    (c.run (xs ++ ys)).value = ((c.run xs).value.run ys).value :=
  Traced.fold_append_value ..

theorem run_append_events (c : Controller) (xs ys : List Action) :
    (c.run (xs ++ ys)).events = (c.run xs).events ++ ((c.run xs).value.run ys).events :=
  Traced.fold_append_events ..

theorem changes_append (c : Controller) (xs ys : List Action) :
    c.changes (xs ++ ys) = c.changes xs ++ (c.run xs).value.changes ys := by
  induction xs generalizing c with
  | nil => rfl
  | cons x xs ih =>
    rw [List.cons_append, changes, changes, ih, List.append_assoc]
    rfl

theorem mem_changedIn_cons {c : Controller} {a : Action} {actions : List Action} {k : ServiceId} :
    k ∈ changedIn (c.changes (a :: actions)) ↔
      k ∈ changedIn (c.changesOf a) ∨ k ∈ changedIn ((c.act a).value.changes actions) :=
  mem_changedIn_append

section unchanged

variable {c : Controller} {k : ServiceId} {a : Action} {actions : List Action}

/-- An action that does not change a service keeps its flag; its pending push is taken by a dispatch
and by nothing else. -/
theorem act_of_unchanged (hk : k ∉ changedIn (c.changesOf a)) :
    (c.act a).value.exports.isExported k = c.exports.isExported k ∧
      (c.act a).value.exports.pushes.slot? k =
        if a.isDispatch then none else c.exports.pushes.slot? k := by
  have hf := c.follows_act a k
  have hflag := hf.flag hk
  have hslot := hf.slot hk
  cases ha : a.isDispatch with
  | false =>
    rw [ha] at hflag hslot
    exact ⟨hflag, hslot⟩
  | true =>
    rw [ha] at hflag hslot
    exact ⟨hflag, hslot.trans (PendingPushes.slot?_detach ..)⟩

theorem run_of_waiting (hd : ∀ a ∈ actions, a.isDispatch = false)
    (hk : k ∉ changedIn (c.changes actions)) :
    (c.run actions).value.exports.isExported k = c.exports.isExported k ∧
      (c.run actions).value.exports.pushes.slot? k = c.exports.pushes.slot? k := by
  induction actions generalizing c with
  | nil => exact ⟨rfl, rfl⟩
  | cons a actions ih =>
    obtain ⟨ha, hd⟩ := List.forall_mem_cons.mp hd
    rw [mem_changedIn_cons, not_or] at hk
    obtain ⟨hflag, hslot⟩ := act_of_unchanged hk.1
    obtain ⟨hflag', hslot'⟩ := ih hd hk.2
    rw [ha] at hslot
    exact ⟨hflag'.trans hflag, hslot'.trans hslot⟩

theorem run_of_none (hs : c.exports.pushes.slot? k = none)
    (hk : k ∉ changedIn (c.changes actions)) :
    (c.run actions).value.exports.isExported k = c.exports.isExported k ∧
      (c.run actions).value.exports.pushes.slot? k = none ∧
      (attempts (c.run actions).events).filter (·.1 = k) = [] := by
  induction actions generalizing c with
  | nil => exact ⟨rfl, hs, rfl⟩
  | cons a actions ih =>
    rw [mem_changedIn_cons, not_or] at hk
    obtain ⟨hflag, hslot⟩ := act_of_unchanged hk.1
    have hnone : (c.act a).value.exports.pushes.slot? k = none := by
      rw [hslot, hs, ite_self]
    have htried : (attempts (c.act a).events).filter (·.1 = k) = [] := by
      rw [c.filter_attempts_act, hs]
      exact ite_self _
    obtain ⟨hflag', hslot', htried'⟩ := ih hnone hk.2
    refine ⟨hflag'.trans hflag, hslot', ?_⟩
    show (attempts ((c.act a).events ++ ((c.act a).value.run actions).events)).filter _ = []
    rw [attempts_append, List.filter_append, htried, htried', List.append_nil]

/-- From a dispatch that finds a push pending on, the push is the only one that is tried for its
service until it changes; the directory of that moment decides whether there is a signal. -/
theorem run_of_dispatch {w : Walk Change} {writes : Channel → ExportState → Signal → List Edit}
    {exported : Bool} (hs : c.exports.pushes.slot? k = some exported)
    (hk : k ∉ changedIn (c.changes (.dispatch w writes :: actions))) :
    let later := c.run (.dispatch w writes :: actions)
    later.value.exports.isExported k = c.exports.isExported k ∧
      (attempts later.events).filter (·.1 = k) = [(k, exported)] ∧
      (signals later.events).filter (·.service = k) =
        (signalOf c.mesh.directory (k, exported)).toList := by
  intro later
  rw [mem_changedIn_cons, not_or] at hk
  obtain ⟨hflag, hslot⟩ := act_of_unchanged hk.1
  obtain ⟨hflag', -, htried'⟩ := run_of_none hslot hk.2
  have htried := c.filter_attempts_act (.dispatch w writes) k
  rw [hs] at htried
  have hemitted : (signals (c.act (.dispatch w writes)).events).filter (·.service = k) =
      (signalOf c.mesh.directory (k, exported)).toList := by
    have hb : signals (c.act (.dispatch w writes)).events =
        (c.mesh.batch w).filterMap (signalOf c.mesh.directory) := signals_dispatchIn ..
    have hs' : c.mesh.exports.pushes.slot? k = some exported := hs
    rw [hb, filter_filterMap_signalOf, c.mesh.filter_batch, hs', List.filterMap_eq_flatMap_toList]
    exact List.append_nil _
  have hevents : later.events = (c.act (.dispatch w writes)).events ++
      ((c.act (.dispatch w writes)).value.run actions).events := rfl
  refine ⟨hflag'.trans hflag, ?_, ?_⟩
  · rw [hevents, attempts_append, List.filter_append, htried, htried', List.append_nil]
    rfl
  · rw [hevents, signals_append, List.filter_append, hemitted, filter_signals_eq_nil htried',
      List.append_nil]

end unchanged

theorem exists_last_change {start : Controller} {actions : List Action} {k : ServiceId}
    (h : k ∈ changedIn (start.changes actions)) :
    ∃ earlier a later, actions = earlier ++ a :: later ∧
      k ∈ changedIn ((start.run earlier).value.changesOf a) ∧
      k ∉ changedIn (((start.run earlier).value.act a).value.changes later) := by
  induction actions using List.reverseRecOn with
  | nil => cases h
  | append_singleton actions a ih =>
    by_cases ha : k ∈ changedIn ((start.run actions).value.changesOf a)
    · exact ⟨actions, a, [], rfl, ha, List.not_mem_nil⟩
    · rw [changes_append, mem_changedIn_append, mem_changedIn_cons] at h
      obtain ⟨earlier, b, later, rfl, hb, hl⟩ :=
        ih (h.resolve_right fun hc => hc.elim ha List.not_mem_nil)
      refine ⟨earlier, b, later ++ [a], by rw [List.append_assoc]; rfl, hb, ?_⟩
      have hc : (((start.run earlier).value.act b).value.run later).value =
          (start.run (earlier ++ b :: later)).value := by
        rw [run_append_value]
        rfl
      rw [changes_append, mem_changedIn_append, mem_changedIn_cons, hc]
      rintro (hm | hm | hm)
      · exact hl hm
      · exact ha hm
      · cases hm

/-- The last change of a service, and the dispatch that told it. -/
structure Told (start : Controller) (service : ServiceId) (exported : Bool) (earlier : List Action)
    (change : Action) (between : List Action) (dispatch : Action) (after : List Action) : Prop where
  changed : service ∈ changedIn ((start.run earlier).value.changesOf change)
  settled : service ∉ changedIn
    (((start.run earlier).value.act change).value.changes (between ++ dispatch :: after))
  /-- No dispatch begins between the change and this one. -/
  first : dispatch.isDispatch ∧ ∀ a ∈ between, a.isDispatch = false
  /-- From this dispatch on one push is tried for the service, with the flag it has kept. -/
  tried :
    let c := (start.run (earlier ++ change :: between)).value
    (attempts (c.run (dispatch :: after)).events).filter (·.1 = service) = [(service, exported)]
  /-- It is a signal if the directory of that moment resolves the service, and else there is none. -/
  emitted :
    let c := (start.run (earlier ++ change :: between)).value
    (signals (c.run (dispatch :: after)).events).filter (·.service = service) =
      match c.mesh.directory.resolve service with
      | .ok endpoints => [⟨service, c.mesh.directory.hostname service, endpoints, exported⟩]
      | .error _ => []

/-- Where no dispatch has begun since the last change of a service, its push is pending; otherwise the
first to begin has told the change. -/
theorem pending_or_told {start : Controller} {earlier later : List Action} {a : Action} {k : ServiceId}
    (ha : k ∈ changedIn ((start.run earlier).value.changesOf a))
    (hl : k ∉ changedIn (((start.run earlier).value.act a).value.changes later)) :
    let e := (start.run (earlier ++ a :: later)).value.exports
    (∀ b ∈ later, b.isDispatch = false) ∧ e.pushes.slot? k = some (e.isExported k) ∨
      ∃ between dispatch after, later = between ++ dispatch :: after ∧
        Told start k (e.isExported k) earlier a between dispatch after := by
  intro e
  let c₁ := ((start.run earlier).value.act a).value
  have hpending : c₁.exports.pushes.slot? k = some (c₁.exports.isExported k) :=
    ((start.run earlier).value.follows_act a k).changed ha
  have hrun (xs : List Action) : (start.run (earlier ++ a :: xs)).value = (c₁.run xs).value := by
    rw [run_append_value]
    rfl
  have he : e = (c₁.run later).value.exports := congrArg exports (hrun later)
  cases hd : later.find? Action.isDispatch with
  | none =>
    have hwait : ∀ b ∈ later, b.isDispatch = false := fun b hb =>
      Bool.eq_false_iff.mpr (List.find?_eq_none.mp hd b hb)
    obtain ⟨hflag, hslot⟩ := run_of_waiting hwait hl
    exact .inl ⟨hwait, by rw [he, hslot, hflag, hpending]⟩
  | some dispatch =>
    obtain ⟨hdispatch, between, after, rfl, hbetween⟩ := List.find?_eq_some_iff_append.mp hd
    have hwait : ∀ b ∈ between, b.isDispatch = false := fun b hb => by
      have hb := hbetween b hb
      rwa [Bool.not_eq_true'] at hb
    cases dispatch with
    | dispatch w writes =>
      have hl' := hl
      rw [changes_append, mem_changedIn_append, not_or] at hl'
      obtain ⟨hflag, hslot⟩ := run_of_waiting hwait hl'.1
      obtain ⟨hflag', htried, hemitted⟩ := run_of_dispatch (hslot.trans hpending) hl'.2
      have hexported : e.isExported k = c₁.exports.isExported k := by
        rw [he, run_append_value, ← hflag, ← hflag']
      rw [hexported]
      refine .inr ⟨between, _, after, rfl, ha, hl, ⟨hdispatch, hwait⟩, ?_, ?_⟩
      · rwa [hrun]
      · rw [hrun]
        exact hemitted.trans (toList_signalOf ..)
    | _ => cases hdispatch

theorem eq_last_of_waiting {actions earlier later : List Action} {a dispatch : Action}
    (hsplit : actions ++ [dispatch] = earlier ++ a :: later) (hd : dispatch.isDispatch)
    (hwait : ∀ b ∈ later, b.isDispatch = false) : actions = earlier ∧ a = dispatch := by
  rcases List.eq_nil_or_concat later with rfl | ⟨init, b, rfl⟩
  · obtain ⟨hactions, ha⟩ := List.append_inj' hsplit rfl
    exact ⟨hactions, (List.singleton_inj.mp ha).symm⟩
  · rw [List.concat_eq_append, ← List.cons_append, ← List.append_assoc] at hsplit
    obtain ⟨-, hb⟩ := List.append_inj' hsplit rfl
    have hb' := hwait b (by simp)
    rw [← List.singleton_inj.mp hb, hd] at hb'
    cases hb'

theorem exists_write {c : Controller} {w : Walk Change}
    {writes : Channel → ExportState → Signal → List Edit} {k : ServiceId}
    (hk : k ∈ changedIn (c.changesOf (.dispatch w writes))) :
    ∃ outbox e signal, writes outbox e signal ≠ [] := by
  by_contra hw
  simp only [not_exists, not_not] at hw
  have hsilent : writesIn (c.mesh.batch w) c.mesh.directory (Channel.writing writes) c.mesh.exports
      c.mesh.outbox = [] := Round.writes_of_silent hw _
  rw [changesOf, onMesh, Option.elim_some, Mesh.changesOf, Mesh.writes, hsilent] at hk
  cases hk

theorem fresh_exports (policy : Policy) (cluster : Cluster) (width : Nat) (hash : ServiceId → UInt64)
    (k : ServiceId) :
    let e := (fresh policy cluster (.empty width hash)).exports
    e.pushes.slot? k = none ∧ e.isExported k = false := by
  simp [fresh, Mesh.fresh, exports, PendingPushes.slot?, ExportState.isExported,
    ExportTable.isExported, ExportTable.record?_empty]

/-- After any run that ends with a dispatch, the log tells the changes that the table has reported. A
service has never changed and no push was tried for it; or the sink of that last dispatch, one that
writes, has changed it, and its push is pending; or its last change has been told, with the flag it has
now, by the first dispatch to begin after that change: the signal was emitted if the directory resolved
the service when that dispatch ran, and the push was skipped otherwise, and no other push has been tried
for it since. -/
theorem told_by_next_dispatch (policy : Policy) (cluster : Cluster) (width : Nat)
    (hash : ServiceId → UInt64) (actions : List Action) (w : Walk Change)
    (writes : Channel → ExportState → Signal → List Edit) :
    let start := fresh policy cluster (.empty width hash)
    let before := (start.run actions).value
    let last := before.act (.dispatch w writes)
    let changes := start.changes (actions ++ [.dispatch w writes])
    let e := last.value.exports
    reported ((start.run actions).events ++ last.events) = changes ∧ ∀ service,
      (service ∉ changedIn changes ∧
          e.isExported service = false ∧
          (attempts ((start.run actions).events ++ last.events)).filter (·.1 = service) = []) ∨
        ((∃ outbox e signal, writes outbox e signal ≠ []) ∧
          service ∈ changedIn (before.changesOf (.dispatch w writes)) ∧
          e.pushes.slot? service = some (e.isExported service)) ∨
        ∃ earlier change between dispatch after,
          actions ++ [.dispatch w writes] = earlier ++ change :: (between ++ dispatch :: after) ∧
            Told start service (e.isExported service) earlier change between dispatch after := by
  intro start before last changes e
  have hevents : (start.run (actions ++ [.dispatch w writes])).events =
      (start.run actions).events ++ last.events := by
    rw [run_append_events]
    exact congrArg _ (List.append_nil _)
  have hvalue : (start.run (actions ++ [.dispatch w writes])).value = last.value := run_append_value ..
  have hexports : (start.run (actions ++ [.dispatch w writes])).value.exports = e :=
    congrArg exports hvalue
  rw [← hevents, ← hexports]
  refine ⟨start.reported_run _, fun service => ?_⟩
  by_cases hs : service ∈ changedIn changes
  · right
    obtain ⟨earlier, change, later, hsplit, hchange, hlater⟩ := exists_last_change hs
    rw [hsplit]
    rcases pending_or_told hchange hlater with ⟨hwait, hslot⟩ | ⟨between, dispatch, after, rfl, ht⟩
    · obtain ⟨rfl, rfl⟩ := eq_last_of_waiting hsplit rfl hwait
      exact .inl ⟨exists_write hchange, hchange, hslot⟩
    · exact .inr ⟨earlier, change, between, dispatch, after, rfl, ht⟩
  · left
    obtain ⟨hnone, hfalse⟩ := fresh_exports policy cluster width hash service
    obtain ⟨hflag, -, htried⟩ := run_of_none hnone hs
    exact ⟨hs, hflag.trans hfalse, htried⟩

/-- A service that is exported before the directory knows it, with a dispatch in between, is exported and
known after the next dispatch, and there has been no signal for it. -/
theorem skipped_push_is_not_made_up_for :
    let silent : Channel → ExportState → Signal → List Edit := fun _ _ _ => []
    let named : ObjectMeta := { name := some "svc", ns := some "ns" }
    let run := (fresh ⟨true, false⟩ .standard (.empty 16 fun _ => 0)).run [
      .exports .listed (.event (.apply { metadata := named })),
      .dispatch .listed silent,
      .services .listed (.event (.apply { metadata := named, spec := none })),
      .dispatch .listed silent]
    run.value.exports.isExported ⟨"ns", "svc"⟩ = true ∧
      run.value.mesh.directory.resolve ⟨"ns", "svc"⟩ = .ok [] ∧ signals run.events = [] := by
  refine ⟨?_, ?_, ?_⟩
  · decide +kernel
  · rfl
  · rfl

end Controller
end MeshExport
