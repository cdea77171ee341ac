import Mathlib.Data.List.Chain
import MeshExport.Proofs.Exports.Records
import MeshExport.Proofs.Mesh.Changes
import MeshExport.Proofs.Mesh.Isolation

/-! Exports that come and go by events alone. As long as no flag is written by hand, only exported
services are on record, the changes of a service are true, false, true and so on, and the changes to true
outnumber those to false by the services that are exported. An event that repeats what is on record
changes nothing. -/

namespace MeshExport

/-- The flags told by the changes of a service, oldest first. -/
def flagsOf (service : ServiceId) (changes : List Change) : List Bool :=
  (changes.filter (·.1 = service)).map Prod.snd

theorem flagsOf_append (service : ServiceId) (xs ys : List Change) :
    flagsOf service (xs ++ ys) = flagsOf service xs ++ flagsOf service ys := by
  rw [flagsOf, List.filter_append, List.map_append]
  rfl

theorem flagsOf_singleton (service k : ServiceId) (exported : Bool) :
    flagsOf k [(service, exported)] = if service = k then [exported] else [] := by
  by_cases hk : service = k <;> simp [flagsOf, hk]

/-- True comes first, and no flag is told twice in a row. -/
structure Alternating (flags : List Bool) : Prop where
  first : flags.head? ≠ some false
  turns : flags.IsChain (· ≠ ·)

namespace Alternating

theorem nil : Alternating [] := ⟨by simp, .nil⟩

/-- The next flag is another than the last one, or true where there is none. -/
theorem snoc {flags : List Bool} (h : Alternating flags) {b : Bool}
    (hb : flags.getLast? = some true ↔ b = false) : Alternating (flags ++ [b]) := by
  refine ⟨?_, List.isChain_append.mpr ⟨h.turns, .singleton b, fun a ha c hc => ?_⟩⟩
  · cases flags with
    | nil =>
      cases b
      · cases hb.mpr rfl
      · simp
    | cons a flags => exact h.first
  · rw [List.head?_singleton, Option.mem_some] at hc
    rw [← hc]
    cases a <;> cases b <;> simp_all

end Alternating

namespace Edit

def isEvent : Edit → Bool
  | set _ _ => false
  | created _ => true
  | deleted _ => true

variable {x : Edit} {r : Option Bool}

theorem record_of_told (hx : x.isEvent = true) (hr : r ≠ some false) (h : x.told r = none) :
    r = x.record := by
  cases x with
  | set service exported => cases hx
  | created service => by_contra hne; simp_all [told, record]
  | deleted service => cases r with
    | none => rfl
    | some b => cases b <;> simp_all [told]

theorem getD_of_told (hx : x.isEvent = true) (hr : r ≠ some false) {b : Bool}
    (h : x.told r = some b) : r.getD false = !b := by
  rcases r with _ | _ | _ <;> cases x <;> simp_all [told, isEvent]

end Edit

namespace ExportState

def Clean (e : ExportState) : Prop := ∀ k, e.table.record? k ≠ some false

variable {e : ExportState} {x : Edit}

theorem Clean.edit (h : e.Clean) (hx : x.isEvent = true) : (e.edit x).value.Clean := by
  intro k
  rw [record?_edit]
  split
  · cases x <;> simp_all [Edit.isEvent, Edit.record]
  · exact h k

theorem Clean.record_of_unexported (h : e.Clean) {k : ServiceId} (hk : e.isExported k = false) :
    e.table.record? k = none := by
  have hr := (e.table.isExported_iff k).not.mp (Bool.eq_false_iff.mp hk)
  rcases he : e.table.record? k with _ | _ | _
  · rfl
  · exact absurd he (h k)
  · exact absurd he hr

/-- An event repeats what is on record, or it turns the flag of its service. -/
theorem Clean.event_cases (h : e.Clean) (hx : x.isEvent = true) :
    ((e.edit x).value = e ∧ (e.table.write x).2 = none) ∨
      ∃ b, e.isExported x.service = !b ∧
        (∀ k, (e.edit x).value.isExported k = if x.service = k then b else e.isExported k) ∧
        (e.edit x).value.transitions = e.transitions.count b ∧
        (e.table.write x).2 = some (x.service, b) := by
  have hvalue := value_edit e x
  rw [ExportTable.change_write] at hvalue ⊢
  cases hr : x.told (e.table.record? x.service) with
  | none => exact .inl ⟨edit_of_record (x.record_of_told hx (h x.service) hr), rfl⟩
  | some b =>
    rw [hr] at hvalue
    refine .inr ⟨b, x.getD_of_told hx (h x.service) hr, fun k => ?_, ?_, rfl⟩
    · rw [isExported_edit, ExportTable.change_write, hr]
      rfl
    · rw [hvalue]
      rfl

/-- What the changes so far say of export state. -/
structure Alternates (e : ExportState) (changes : List Change) : Prop where
  clean : e.Clean
  turns : ∀ k, Alternating (flagsOf k changes)
  last : ∀ k, (flagsOf k changes).getLast? = some true ↔ e.isExported k = true
  raised : e.transitions.exported = changes.countP (·.2)
  lowered : e.transitions.unexported = changes.countP (!·.2)
  balance : e.transitions.exported = e.transitions.unexported + e.table.exportedCount

namespace Alternates

variable {changes : List Change}

theorem congr {e' : ExportState} (h : e.Alternates changes) (ht : e'.table = e.table)
    (hc : e'.transitions = e.transitions) : e'.Alternates changes := by
  have hflag (k : ServiceId) : e'.isExported k = e.isExported k := by
    rw [isExported, ht, isExported]
  refine ⟨fun k => ?_, h.turns, fun k => ?_, ?_, ?_, ?_⟩
  · rw [ht]
    exact h.clean k
  · rw [hflag, h.last]
  · rw [hc, h.raised]
  · rw [hc, h.lowered]
  · rw [ht, hc, h.balance]

theorem turn {e' : ExportState} (h : e.Alternates changes) (hclean : e'.Clean) {service : ServiceId}
    {b : Bool} (hb : e.isExported service = !b)
    (hflag : ∀ k, e'.isExported k = if service = k then b else e.isExported k)
    (hc : e'.transitions = e.transitions.count b) : e'.Alternates (changes ++ [(service, b)]) := by
  have hflags (k : ServiceId) : flagsOf k (changes ++ [(service, b)]) =
      flagsOf k changes ++ if service = k then [b] else [] := by
    rw [flagsOf_append, flagsOf_singleton]
  have hcount : (changes ++ [(service, b)]).countP (·.2) =
        changes.countP (·.2) + (if b then 1 else 0) ∧
      (changes ++ [(service, b)]).countP (!·.2) = changes.countP (!·.2) + (if b then 0 else 1) := by
    rw [List.countP_append, List.countP_append]
    cases b <;> exact ⟨rfl, rfl⟩
  refine ⟨hclean, fun k => ?_, fun k => ?_, ?_, ?_, ?_⟩
  · rw [hflags]
    split
    · rename_i hk
      subst hk
      -- the last flag told is the one on record, and that is the one that turns
      refine (h.turns service).snoc ?_
      rw [h.last, hb, Bool.not_eq_true']
    · rw [List.append_nil]
      exact h.turns k
  · rw [hflags, hflag]
    split
    · rw [List.getLast?_concat, Option.some_inj]
    · rw [List.append_nil, h.last]
  · rw [hc, hcount.1, ← h.raised]
    cases b <;> rfl
  · rw [hc, hcount.2, ← h.lowered]
    cases b <;> rfl
  · have hbalance := h.balance
    have hturned := ExportTable.exportedCount_of_turned hb hflag
    rw [hc]
    cases b <;> simp only [Transitions.count, if_true, Bool.false_eq_true, if_false] at hturned ⊢ <;>
      omega

theorem edit (h : e.Alternates changes) (hx : x.isEvent = true) :
    (e.edit x).value.Alternates (changes ++ (e.table.write x).2.toList) := by
  rcases h.clean.event_cases hx with ⟨hstate, hr⟩ | ⟨b, hb, hflag, hc, hr⟩
  · rwa [hstate, hr, Option.toList_none, List.append_nil]
  · rw [hr]
    exact h.turn (h.clean.edit hx) hb hflag hc

theorem editAll (h : e.Alternates changes) {edits : List Edit} (hx : ∀ x ∈ edits, x.isEvent = true) :
    (e.editAll edits).value.Alternates (changes ++ e.table.reports edits) := by
  induction edits generalizing e changes with
  | nil => rwa [ExportTable.reports, List.append_nil]
  | cons x xs ih =>
    obtain ⟨hfirst, hrest⟩ := List.forall_mem_cons.mp hx
    have hlast := ih (h.edit hfirst) hrest
    rwa [table_edit, List.append_assoc] at hlast

end Alternates
end ExportState

theorem FeedCall.isEvent_of_mem_writes {w : Walk NamespacedName} (call : FeedCall ServiceExport)
    {x : Edit} (hx : x ∈ call.writes w) : x.isEvent = true := by
  obtain ⟨entry, -, hx⟩ := List.mem_flatMap.mp hx
  cases entry with
  | applied o =>
    obtain ⟨k, -, rfl⟩ := Option.map_eq_some_iff.mp (Option.mem_toList.mp hx)
    rfl
  | deleted k =>
    rw [List.mem_singleton.mp hx]
    rfl

namespace Action

variable {σ : Type}

/-- No flag is written by hand, neither by the action itself nor by its sink. -/
def ByEvents : Action σ → Prop
  | edit x => x.isEvent = true
  | dispatch _ sink => ∀ outbox e signal, (sink outbox e signal).edits = []
  | _ => True

/-- The action is an event that tells of a service what is on record: that an exported one was created,
or one that is not exported deleted. -/
def Repeats (e : ExportState) : Action σ → Prop
  | edit (.created k) => e.isExported k = true
  | edit (.deleted k) => e.isExported k = false
  | exports _ (.apply x) => ∃ k, key? x = some k ∧ e.isExported k = true
  | exports _ (.delete k) => e.isExported k = false
  | _ => False

end Action

namespace Mesh

variable {σ : Type}

theorem alternates_fresh (policy : Policy) (cluster : Cluster) (width : Nat)
    (hash : ServiceId → UInt64) (outbox : σ) :
    (fresh policy cluster (.empty width hash) outbox).exports.Alternates [] := by
  have hrecord := ExportTable.record?_empty width hash
  have hunexported (k : ServiceId) : (ExportTable.empty width hash).isExported k = false := by
    rw [ExportTable.isExported, hrecord]
    rfl
  have hclean : ∀ k, (ExportTable.empty width hash).record? k ≠ some false := fun k hk => by
    rw [hrecord] at hk
    cases hk
  have hcount : (ExportTable.empty width hash).exportedCount = 0 := by
    rw [← ExportTable.length_exported, List.length_eq_zero_iff]
    refine List.eq_nil_iff_forall_not_mem.mpr fun k hk => ?_
    rw [ExportTable.mem_exported, hunexported] at hk
    cases hk
  refine ⟨hclean, fun _ => .nil, fun k => ?_, rfl, rfl, ?_⟩
  · show none = some true ↔ (ExportTable.empty width hash).isExported k = true
    simp [hunexported]
  · show 0 = 0 + (ExportTable.empty width hash).exportedCount
    rw [hcount]

theorem alternates_act {m : Mesh σ} {changes : List Change} (h : m.exports.Alternates changes)
    {a : Action σ} (ha : a.ByEvents) :
    (m.act a).value.exports.Alternates (changes ++ m.changesOf a) := by
  cases a with
  | edit x => exact h.editAll (List.forall_mem_singleton.mpr ha)
  | exports w call =>
    show ((ExportState.exportFeed.walking w).run m.exports call).state.Alternates _
    rw [ExportState.state_exportFeed]
    exact h.editAll fun x hx => call.isEvent_of_mem_writes hx
  | directory call =>
    show m.exports.Alternates (changes ++ [])
    rwa [List.append_nil]
  | dispatch w sink =>
    obtain ⟨hagrees, hcounts⟩ := m.calm_dispatch w ha
    rw [changesOf, writes, writesIn, Round.writes_of_silent ha, ExportTable.reports, List.append_nil]
    exact h.congr hagrees.table hcounts

theorem alternates_run {m : Mesh σ} {changes : List Change} (h : m.exports.Alternates changes)
    (actions : List (Action σ)) (ha : ∀ a ∈ actions, a.ByEvents) :
    (m.run actions).value.exports.Alternates (changes ++ m.changes actions) := by
  induction actions generalizing m changes with
  | nil => rwa [Mesh.changes, List.append_nil]
  | cons a as ih =>
    obtain ⟨hfirst, hrest⟩ := List.forall_mem_cons.mp ha
    have hlast := ih (alternates_act h hfirst) hrest
    rwa [List.append_assoc] at hlast

theorem act_of_repeats {m : Mesh σ} (h : m.exports.Clean) {a : Action σ} (ha : a.Repeats m.exports) :
    (m.act a).value = m := by
  have hdeleted {k : ServiceId} (hk : m.exports.isExported k = false) :
      (m.exports.edit (.deleted k)).value = m.exports :=
    ExportState.edit_of_record (h.record_of_unexported hk)
  cases a with
  | edit x =>
    cases x with
    | set service exported => cases ha
    | created k => exact congrArg (fun e => { m with exports := e }) (ExportState.edit_of_isExported ha)
    | deleted k => exact congrArg (fun e => { m with exports := e }) (hdeleted ha)
  | exports w call =>
    cases call with
    | apply x =>
      obtain ⟨k, hx, hk⟩ := ha
      have hstate : (ExportState.exportFeed.apply m.exports x).state = m.exports := by
        rw [ExportState.exportFeed_reads.apply, ExportState.read, hx]
        exact ExportState.edit_of_isExported hk
      exact congrArg (fun e => { m with exports := e }) hstate
    | delete k => exact congrArg (fun e => { m with exports := e }) (hdeleted ha)
    | reset objects removed => cases ha
  | directory call => cases ha
  | dispatch w sink => cases ha

/-- Along a run in which no flag is written by hand, only exported services are on record. The changes
the table reports are those in the log. Those of each service turn its flag, beginning with true, and
the last one tells whether it is exported; the changes are counted by flag, and those to true
outnumber those to false by the exported services. An event that repeats what is on record changes
nothing: no record, no pending push and no count. -/
theorem transitions_alternate (policy : Policy) (cluster : Cluster) (width : Nat)
    (hash : ServiceId → UInt64) (outbox : σ) (actions : List (Action σ))
    (hevents : ∀ a ∈ actions, a.ByEvents) :
    let start := fresh policy cluster (.empty width hash) outbox
    let past := start.run actions
    let changes := start.changes actions
    let m := past.value
    let e := m.exports
    (∀ service, e.table.record? service ≠ some false) ∧
      e.table.size = e.table.exportedCount ∧
      reported past.events = changes ∧
      (∀ service,
        let flags := flagsOf service changes
        flags.head? ≠ some false ∧ flags.IsChain (· ≠ ·) ∧
          (flags.getLast? = some true ↔ e.isExported service = true)) ∧
      e.transitions.exported = changes.countP (·.2) ∧
      e.transitions.unexported = changes.countP (!·.2) ∧
      e.transitions.exported = e.transitions.unexported + e.table.exportedCount ∧
      ∀ a : Action σ, a.Repeats e → (m.act a).value = m := by
  intro start past changes m e
  have h : e.Alternates changes :=
    alternates_run (alternates_fresh policy cluster width hash outbox) actions hevents
  refine ⟨h.clean, ExportTable.size_eq_exportedCount h.clean, start.reported_run actions,
    fun service => ?_, h.raised, h.lowered, h.balance, fun a ha => act_of_repeats h.clean ha⟩
  exact ⟨(h.turns service).first, (h.turns service).turns, h.last service⟩

/-- Two services exported in one reset, one of them deleted and created again after a dispatch: three
changes to true and one to false, so two exports; the other one may be applied once more. -/
theorem alternation_of_two_exports :
    let mark (name : String) : ServiceExport := { metadata := { name := some name, ns := some "ns" } }
    let silent : Sink Unit := fun _ _ _ => { state := () }
    let a : ServiceId := ⟨"ns", "a"⟩
    let actions : List (Action Unit) := [
      .exports .listed (.reset [mark "b", mark "a"] ∅), .dispatch .listed silent,
      .exports .listed (.delete a), .edit (.deleted a), .edit (.created a)]
    let past := (fresh ⟨true, false⟩ .standard (.empty 16 fun _ => 0) ()).run actions
    let e := past.value.exports
    (∀ x ∈ actions, x.ByEvents) ∧
      flagsOf a (reported past.events) = [true, false, true] ∧
      e.transitions = ⟨3, 1⟩ ∧ e.table.exportedCount = 2 ∧
      (past.value.act (.exports .listed (.apply (mark "b")))).value = past.value := by
  intro mark silent a actions past e
  have hevents : ∀ x ∈ actions, x.ByEvents := by simp [actions, silent, Action.ByEvents, Edit.isEvent]
  have hcounts : e.transitions = ⟨3, 1⟩ := by decide
  obtain ⟨-, -, -, -, -, -, hbalance, hrepeats⟩ :=
    transitions_alternate ⟨true, false⟩ .standard 16 (fun _ => 0) () actions hevents
  have hcount : e.table.exportedCount = 2 := by
    dsimp only [e, past] at hcounts ⊢
    rewrite [hcounts] at hbalance
    exact (Nat.add_left_cancel hbalance).symm
  have hb : e.isExported ⟨"ns", "b"⟩ = true := by decide
  exact ⟨hevents, by decide, hcounts, hcount,
    hrepeats (.exports .listed (.apply (mark "b"))) ⟨⟨"ns", "b"⟩, rfl, hb⟩⟩

end Mesh
end MeshExport
