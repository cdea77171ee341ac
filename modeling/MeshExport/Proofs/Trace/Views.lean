import Mathlib.Data.List.Basic
import MeshExport.Trace.Traced

/-! What can be read off a course of events: the changes of export state in the log, the pushes that were
tried, and the signals emitted and received. -/

namespace MeshExport

abbrev Change := ServiceId × Bool

namespace Event

def change? : Event → Option Change
  | stateChanged service exported => some (service, exported)
  | _ => none

def attempt? : Event → Option Change
  | pushed signal => some (signal.service, signal.exported)
  | unresolved service exported _ => some (service, exported)
  | _ => none

def signal? : Event → Option Signal
  | pushed signal => some signal
  | _ => none

def received? : Event → Option Signal
  | visibilityChanged signal => some signal
  | _ => none

end Event

/-- The changes of export state that the log tells, oldest first. -/
def reported (events : List Event) : List Change := events.filterMap Event.change?

/-- The pushes tried, whether or not a signal came of them. -/
def attempts (events : List Event) : List Change := events.filterMap Event.attempt?

def signals (events : List Event) : List Signal := events.filterMap Event.signal?

def received (events : List Event) : List Signal := events.filterMap Event.received?

theorem reported_append (xs ys : List Event) : reported (xs ++ ys) = reported xs ++ reported ys :=
  List.filterMap_append ..

theorem attempts_append (xs ys : List Event) : attempts (xs ++ ys) = attempts xs ++ attempts ys :=
  List.filterMap_append ..

theorem signals_append (xs ys : List Event) : signals (xs ++ ys) = signals xs ++ signals ys :=
  List.filterMap_append ..

theorem received_append (xs ys : List Event) : received (xs ++ ys) = received xs ++ received ys :=
  List.filterMap_append ..

/-- Neither a change of export state nor a push. -/
def Quiet (events : List Event) : Prop := ∀ e ∈ events, e.change? = none ∧ e.attempt? = none

namespace Quiet

variable {xs ys : List Event}

theorem nil : Quiet [] := fun _ h => (by cases h)

theorem singleton {e : Event} (hc : e.change? = none) (ha : e.attempt? = none) : Quiet [e] := by
  intro e' he
  rw [List.mem_singleton.mp he]
  exact ⟨hc, ha⟩

theorem emitIf (c : Bool) {e : Event} (hc : e.change? = none) (ha : e.attempt? = none) :
    Quiet (Traced.emitIf c e).events := by
  cases c
  · exact nil
  · exact singleton hc ha

theorem append (hx : Quiet xs) (hy : Quiet ys) : Quiet (xs ++ ys) := by
  intro e he
  rcases List.mem_append.mp he with he | he
  · exact hx e he
  · exact hy e he

theorem reported (h : Quiet xs) : reported xs = [] :=
  List.filterMap_eq_nil_iff.mpr fun e he => (h e he).1

theorem attempts (h : Quiet xs) : attempts xs = [] :=
  List.filterMap_eq_nil_iff.mpr fun e he => (h e he).2

end Quiet

theorem signals_eq_nil {events : List Event} (h : attempts events = []) : signals events = [] := by
  simp only [attempts, signals, List.filterMap_eq_nil_iff] at h ⊢
  intro e he
  have ha := h e he
  cases e <;> first | rfl | cases ha

end MeshExport
