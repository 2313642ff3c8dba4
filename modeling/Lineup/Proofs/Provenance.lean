import Lineup.Proofs.Keyed
import Mathlib.Algebra.Ring.Nat
import Mathlib.Data.List.Nodup

/-!
Collections that are filled batch by batch. If each batch brings new keys only, and
each of them once, then the collection holds what the batches bring together, and
every key of it is owed to exactly one of them.
-/

namespace Lineup.Keyed

variable {α β : Type} {m : Keyed α} {brings : β → List (String × α)} {batches : List β}

/-- The entries of a collection are those that the batches bring. -/
def MadeOf (m : Keyed α) (brings : β → List (String × α)) (batches : List β) : Prop :=
  m.entries.Perm (batches.flatMap brings)

theorem madeOf_empty (brings : β → List (String × α)) : (∅ : Keyed α).MadeOf brings [] :=
  List.Perm.refl _

theorem MadeOf.insertMany (h : m.MadeOf brings batches) {b : β}
    (hnew : ∀ k ∈ (brings b).map (·.1), k ∉ m.keys) (hd : ((brings b).map (·.1)).Nodup) :
    (m.insertMany (brings b)).MadeOf brings (batches ++ [b]) := by
  rw [MadeOf, List.flatMap_append, List.flatMap_singleton]
  exact (entries_insertMany_perm (brings b) m hnew hd).trans (h.append_right _)

theorem MadeOf.mem_entries_iff (h : m.MadeOf brings batches) (e : String × α) :
    e ∈ m.entries ↔ ∃ b ∈ batches, e ∈ brings b := by
  rw [h.mem_iff, List.mem_flatMap]

theorem MadeOf.mem_keys_iff (h : m.MadeOf brings batches) (k : String) :
    k ∈ m.keys ↔ ∃ b ∈ batches, k ∈ (brings b).map (·.1) := by
  have hkeys := h.map (·.1)
  rw [List.map_flatMap] at hkeys
  show k ∈ m.entries.map (·.1) ↔ _
  rw [hkeys.mem_iff, List.mem_flatMap]

/-- No two batches bring the same key. -/
theorem MadeOf.disjoint (h : m.MadeOf brings batches) :
    batches.Pairwise fun b b' => ((brings b).map (·.1)).Disjoint ((brings b').map (·.1)) := by
  have hkeys := h.map (·.1)
  rw [List.map_flatMap] at hkeys
  exact (List.nodup_flatMap.mp (hkeys.nodup_iff.mp m.nodup_keys)).2

/-- Only one of the batches brought a key. -/
theorem MadeOf.filter_eq (h : m.MadeOf brings batches) {b : β} {k : String} (hb : b ∈ batches)
    (hk : k ∈ (brings b).map (·.1)) :
    (batches.filter fun b' => k ∈ (brings b').map (·.1)) = [b] := by
  obtain ⟨before, after, rfl⟩ := List.append_of_mem hb
  have hdisj := h.disjoint
  rw [List.pairwise_append, List.pairwise_cons] at hdisj
  have hbefore : (before.filter fun b' => k ∈ (brings b').map (·.1)) = [] := by
    refine List.filter_eq_nil_iff.mpr fun b' hb' hk' => ?_
    exact hdisj.2.2 b' hb' b List.mem_cons_self (of_decide_eq_true hk') hk
  have hafter : (after.filter fun b' => k ∈ (brings b').map (·.1)) = [] := by
    refine List.filter_eq_nil_iff.mpr fun b' hb' hk' => ?_
    exact hdisj.2.1.1 b' hb' hk (of_decide_eq_true hk')
  rw [List.filter_append, List.filter_cons_of_pos (by simpa using hk), hbefore, hafter]
  rfl

theorem MadeOf.size_eq (h : m.MadeOf brings batches) :
    m.size = (batches.map fun b => (brings b).length).sum := by
  rw [size, h.length_eq, List.length_flatMap]

end Lineup.Keyed
