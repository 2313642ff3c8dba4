import Mathlib.Data.List.Basic

/-!
Characters that are split or joined at one of them. A split at the first or at the
last place where the character stands can be made in one way only.
-/

namespace Lineup.Text

/-- The first `c` ends the first part. -/
theorem split_at_first {c : Char} {x x' z z' : List Char} (hx : c ∉ x) (hx' : c ∉ x')
    (h : x ++ c :: z = x' ++ c :: z') : x = x' ∧ z = z' := by
  induction x generalizing x' with
  | nil =>
    cases x' with
    | nil => exact ⟨rfl, (List.cons.inj h).2⟩
    | cons d x' =>
      obtain ⟨rfl, -⟩ := List.cons.inj h
      exact absurd List.mem_cons_self hx'
  | cons a x ih =>
    cases x' with
    | nil =>
      obtain ⟨rfl, -⟩ := List.cons.inj h
      exact absurd List.mem_cons_self hx
    | cons d x' =>
      obtain ⟨rfl, htail⟩ := List.cons.inj h
      obtain ⟨rfl, hz⟩ := ih (fun hm => hx (List.mem_cons_of_mem _ hm))
        (fun hm => hx' (List.mem_cons_of_mem _ hm)) htail
      exact ⟨rfl, hz⟩

/-- The last `c` begins the last part. -/
theorem split_at_last {c : Char} {x x' z z' : List Char} (hz : c ∉ z) (hz' : c ∉ z')
    (h : x ++ c :: z = x' ++ c :: z') : x = x' ∧ z = z' := by
  have hrev : z.reverse ++ c :: x.reverse = z'.reverse ++ c :: x'.reverse := by
    simpa using congrArg List.reverse h
  obtain ⟨hz'', hx⟩ := split_at_first (by simpa using hz) (by simpa using hz') hrev
  exact ⟨List.reverse_injective hx, List.reverse_injective hz''⟩

/-- A character that stands somewhere stands at a last place. -/
theorem exists_split_at_last {c : Char} {x : List Char} (h : c ∈ x) :
    ∃ y z, x = y ++ c :: z ∧ c ∉ z := by
  obtain ⟨z, y, hrev, hz⟩ := List.eq_append_cons_of_mem (List.mem_reverse.mpr h)
  refine ⟨y.reverse, z.reverse, ?_, by simpa using hz⟩
  simpa using congrArg List.reverse hrev

/-- What is joined by a character is the first part, and each other one behind the character. -/
theorem intercalate_cons (c : Char) (l : List Char) (ls : List (List Char)) :
    [c].intercalate (l :: ls) = l ++ ls.flatMap (c :: ·) := by
  induction ls generalizing l with
  | nil => simp
  | cons l' ls ih =>
    rw [List.intercalate_cons_cons, ih]
    simp

end Lineup.Text
