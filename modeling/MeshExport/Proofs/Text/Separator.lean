import Mathlib.Data.List.Basic

/-! Texts joined by a separator. Where it does not occur in the part before, or in the part after, the
join can be undone. -/

namespace MeshExport.Text

/-- A list is cut where the separator occurs first. -/
theorem append_cons_inj {α : Type} {a : α} {xs ys us vs : List α} (hx : a ∉ xs) (hu : a ∉ us)
    (h : xs ++ a :: ys = us ++ a :: vs) : xs = us ∧ ys = vs := by
  induction xs generalizing us with
  | nil =>
    cases us with
    | nil => exact ⟨rfl, (List.cons.inj h).2⟩
    | cons u us =>
      -- the other part would begin with the separator
      obtain ⟨rfl, -⟩ := List.cons.inj h
      exact absurd List.mem_cons_self hu
  | cons x xs ih =>
    cases us with
    | nil =>
      obtain ⟨rfl, -⟩ := List.cons.inj h
      exact absurd List.mem_cons_self hx
    | cons u us =>
      obtain ⟨rfl, ht⟩ := List.cons.inj h
      rw [List.mem_cons, not_or] at hx hu
      obtain ⟨rfl, hv⟩ := ih hx.2 hu.2 ht
      exact ⟨rfl, hv⟩

section strings

variable {a : Char} {separator p q x y : String}

theorem cut_first (hs : separator.toList = [a]) (hp : a ∉ p.toList) (hq : a ∉ q.toList)
    (h : p ++ separator ++ x = q ++ separator ++ y) : p = q ∧ x = y := by
  have hl : p.toList ++ a :: x.toList = q.toList ++ a :: y.toList := by
    simpa [hs] using congrArg String.toList h
  obtain ⟨hpq, hxy⟩ := append_cons_inj hp hq hl
  exact ⟨String.toList_inj.mp hpq, String.toList_inj.mp hxy⟩

theorem cut_last (hs : separator.toList = [a]) (hx : a ∉ x.toList) (hy : a ∉ y.toList)
    (h : p ++ separator ++ x = q ++ separator ++ y) : p = q ∧ x = y := by
  have hl : p.toList ++ a :: x.toList = q.toList ++ a :: y.toList := by
    simpa [hs] using congrArg String.toList h
  have hr : x.toList.reverse ++ a :: p.toList.reverse = y.toList.reverse ++ a :: q.toList.reverse := by
    simpa using congrArg List.reverse hl
  obtain ⟨hxy, hpq⟩ := append_cons_inj (by rwa [List.mem_reverse]) (by rwa [List.mem_reverse]) hr
  exact ⟨String.toList_inj.mp (List.reverse_injective hpq),
    String.toList_inj.mp (List.reverse_injective hxy)⟩

/-- A text that stands at two places is told by its length. -/
theorem eq_of_twice {s t : String} (h : p ++ s ++ p ++ t = q ++ s ++ q ++ t) : p = q := by
  have hlength : p.toList.length = q.toList.length := by
    have hl := congrArg String.length h
    simp only [String.length_append] at hl
    rw [String.length_toList, String.length_toList]
    omega
  have hl : p.toList ++ (s ++ p ++ t).toList = q.toList ++ (s ++ q ++ t).toList := by
    simpa using congrArg String.toList h
  exact String.toList_inj.mp (List.append_inj hl hlength).1

end strings

/-- A text written out is searched as the list of its characters. -/
theorem not_mem_ofList {l : List Char} {c : Char} (h : c ∉ l) : c ∉ (String.ofList l).toList := by
  rwa [String.toList_ofList]

theorem isDigit_of_mem_toString {n : Nat} {c : Char} (h : c ∈ (toString n).toList) : c.isDigit := by
  rw [Nat.toString_eq_repr, Nat.toList_repr] at h
  exact Nat.isDigit_of_mem_toDigits (by decide) (by decide) h

end MeshExport.Text
