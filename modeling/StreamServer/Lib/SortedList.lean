import Mathlib

/-! Lists ordered by a relation and cut by a predicate that is closed downwards
along it, the functional reading of a binary search over a partitioned range. -/
namespace StreamServer.Lib.SortedList

variable {α : Type}

theorem dropWhile_fails {R : α → α → Prop} {p : α → Bool} {l : List α} (sorted : l.Pairwise R)
    (down : ∀ a b, R a b → p b = true → p a = true) :
    ∀ x ∈ l.dropWhile p, p x = false := by
  induction l with
  | nil => simp
  | cons head tail ih =>
    obtain ⟨first,rest⟩ := List.pairwise_cons.mp sorted
    intro x member
    cases keep : p head with
    | true =>
      rw [List.dropWhile_cons_of_pos keep] at member
      exact ih rest x member
    | false =>
      rw [List.dropWhile_cons_of_neg (by simp [keep])] at member
      cases value : p x with
      | false => rfl
      | true =>
        rcases List.mem_cons.mp member with rfl | member
        · rw [keep] at value
          exact absurd value (by simp)
        · rw [down head x (first x member) value] at keep
          exact absurd keep (by simp)

theorem dropWhile_sorted {R : α → α → Prop} {p : α → Bool} {l : List α} (sorted : l.Pairwise R) :
    (l.dropWhile p).Pairwise R := sorted.sublist (List.dropWhile_sublist p)

/-- An element put where a list is cut, as seen from its end. -/
theorem mem_insertion {p : α → Bool} {l : List α} {new other : α} :
    other ∈ l.rdropWhile p ++ new :: l.rtakeWhile p ↔ other = new ∨ other ∈ l := by
  have whole : other ∈ l ↔ other ∈ l.rdropWhile p ∨ other ∈ l.rtakeWhile p := by
    rw [← List.mem_append,List.rdropWhile_append_rtakeWhile]
  rw [whole,List.mem_append,List.mem_cons,or_left_comm]

end StreamServer.Lib.SortedList
