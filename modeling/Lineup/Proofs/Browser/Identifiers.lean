import Lineup.Browser.Expansion
import Mathlib

/-!
The identifiers that a spec stands for under a base. A formula gives the one at
each position. They are pairwise distinct whatever the base is, and there are as
many of them as the spec announces.
-/

namespace Lineup.Browser

/-! ## Numerals between dashes -/

theorem dash_not_mem_repr (n : Nat) : '-' ∉ n.repr.toList := by
  rw [Nat.toList_repr]
  intro h
  have hd : '-'.isDigit = true := Nat.isDigit_of_mem_toDigits (by decide) (by decide) h
  exact absurd hd (by decide)

theorem repr_dash_repr_inj {i j i' j' : Nat}
    (h : i.repr ++ "-" ++ j.repr = i'.repr ++ "-" ++ j'.repr) : i = i' ∧ j = j' := by
  have hl : i.repr.toList ++ '-' :: j.repr.toList = i'.repr.toList ++ '-' :: j'.repr.toList := by
    simpa [String.toList_append] using congrArg String.toList h
  -- The first dash ends the first numeral, because no numeral has a dash in it.
  obtain ⟨hi, -, hj⟩ :=
    (List.append_cons_inj_of_notMem (dash_not_mem_repr i) (dash_not_mem_repr j)).mp hl
  exact ⟨Nat.repr_inj.mp (String.toList_inj.mp hi), Nat.repr_inj.mp (String.toList_inj.mp hj)⟩

/-! ## Positions -/

/-- How many browsers `n` instances of `m` browsers are. -/
def replicas (n m : Nat) : Nat := if n = 0 then 1 else n * m

/-- The identifier at position `k` when `base` stands for `n` instances of `m` browsers. -/
def idAt (base : String) (n m k : Nat) : String :=
  if n = 0 then base
  else if m = 1 then base ++ k.repr
  else base ++ ((k / m).repr ++ "-" ++ (k % m).repr)

/-- The identifiers when `base` stands for `n` instances of `m` browsers. -/
def idsOf (base : String) (n m : Nat) : List String :=
  (List.range (replicas n m)).map (idAt base n m)

/-- Two nested loops run through the quotients and remainders of one. -/
theorem range_flatMap_range {α : Type} (f : Nat → Nat → α) (n m : Nat) :
    ((List.range n).flatMap fun i => (List.range m).map fun j => f i j) =
      (List.range (n * m)).map fun k => f (k / m) (k % m) := by
  induction n with
  | zero => simp
  | succ n ih =>
    have hrow : ((List.range m).map fun j => f n j) =
        (List.range m).map fun j => f ((n * m + j) / m) ((n * m + j) % m) := by
      refine List.map_congr_left fun j hj => ?_
      have hjm : j < m := List.mem_range.mp hj
      have hm : 0 < m := by omega
      rw [Nat.mul_comm n m, Nat.mul_add_div hm, Nat.div_eq_of_lt hjm, Nat.mul_add_mod,
        Nat.mod_eq_of_lt hjm, Nat.add_zero]
    rw [List.range_succ, List.flatMap_append, ih, Nat.succ_mul, List.range_add, List.map_append,
      List.flatMap_singleton, hrow, List.map_map]
    rfl

theorem idAt_inj {base : String} {n m k l : Nat} (hk : k < replicas n m) (hl : l < replicas n m)
    (h : idAt base n m k = idAt base n m l) : k = l := by
  unfold idAt at h
  unfold replicas at hk hl
  split at h
  · rename_i hn
    rw [if_pos hn] at hk hl
    omega
  split at h
  · exact Nat.repr_inj.mp ((String.append_right_inj base).mp h)
  · obtain ⟨hdiv, hmod⟩ := repr_dash_repr_inj ((String.append_right_inj base).mp h)
    rw [← Nat.div_add_mod k m, ← Nat.div_add_mod l m, hdiv, hmod]

theorem length_idsOf (base : String) (n m : Nat) : (idsOf base n m).length = replicas n m := by
  simp [idsOf]

theorem nodup_idsOf (base : String) (n m : Nat) : (idsOf base n m).Nodup := by
  refine List.Nodup.map_on (fun k hk l hl h => ?_) List.nodup_range
  exact idAt_inj (List.mem_range.mp hk) (List.mem_range.mp hl) h

theorem getElem?_idsOf {base : String} {n m k : Nat} (hk : k < replicas n m) :
    (idsOf base n m)[k]? = some (idAt base n m k) := by
  simp [idsOf, hk]

/-! ## The identifiers of a spec -/

namespace Spec

theorem toNat_mul_lt (s : Spec) : s.instances.toNat * s.perInstance.toNat < 2 ^ 64 := by
  have hn : s.instances.toNat < 2 ^ 32 := s.instances.toNat_lt
  have hm : s.perInstance.toNat < 2 ^ 32 := s.perInstance.toNat_lt
  calc s.instances.toNat * s.perInstance.toNat
      < 2 ^ 32 * 2 ^ 32 := Nat.mul_lt_mul'' hn hm
    _ = 2 ^ 64 := by decide

theorem one_le_perInstance (s : Spec) : 1 ≤ s.perInstance.toNat := by
  have h := s.perInstance_pos
  rw [UInt32.lt_iff_toNat_lt] at h
  exact h

theorem instances_eq_zero_iff (s : Spec) : s.instances = 0 ↔ s.instances.toNat = 0 :=
  UInt32.toNat_inj.symm

theorem perInstance_eq_one_iff (s : Spec) : s.perInstance = 1 ↔ s.perInstance.toNat = 1 :=
  UInt32.toNat_inj.symm

/-- The product of the factors fits the word it is computed in. -/
theorem count_eq_replicas (s : Spec) :
    s.count = replicas s.instances.toNat s.perInstance.toNat := by
  unfold count replicas
  rw [UInt64.toNat_mul, UInt32.toNat_toUInt64, UInt32.toNat_toUInt64,
    Nat.mod_eq_of_lt s.toNat_mul_lt]
  simp only [instances_eq_zero_iff]

theorem ids_eq_idsOf (s : Spec) (base : String) :
    s.ids base = idsOf base s.instances.toNat s.perInstance.toNat := by
  unfold ids suffixes idsOf replicas idAt
  simp only [instances_eq_zero_iff, perInstance_eq_one_iff]
  by_cases hn : s.instances.toNat = 0
  · simp [hn]
  by_cases hm : s.perInstance.toNat = 1
  · simp [hn, hm, Function.comp_def]
  · simp only [hn, hm, ↓reduceIte]
    rw [range_flatMap_range (fun i j => i.repr ++ "-" ++ j.repr), List.map_map]
    rfl

theorem length_ids (s : Spec) (base : String) : (s.ids base).length = s.count := by
  rw [ids_eq_idsOf, length_idsOf, count_eq_replicas]

theorem nodup_ids (s : Spec) (base : String) : (s.ids base).Nodup := by
  rw [ids_eq_idsOf]
  exact nodup_idsOf _ _ _

/-- **Expansion.** The browsers of a spec are as many as it announces, under pairwise distinct
identifiers that their positions give, and each has the fields of the spec. -/
theorem expand_enumerates (s : Spec) (base : String) :
    (s.ids base).length = s.count ∧
    s.count = (if s.instances.toNat = 0 then 1
      else s.instances.toNat * s.perInstance.toNat) ∧
    s.instances.toNat * s.perInstance.toNat < 2 ^ 64 ∧
    1 ≤ s.perInstance.toNat ∧
    (s.ids base).Nodup ∧
    (s.instances.toNat = 0 → s.ids base = [base]) ∧
    (0 < s.instances.toNat → s.perInstance.toNat = 1 →
      ∀ k < s.count, (s.ids base)[k]? = some (base ++ k.repr)) ∧
    (0 < s.instances.toNat → 1 < s.perInstance.toNat →
      ∀ k < s.count, (s.ids base)[k]? = some (base ++
        ((k / s.perInstance.toNat).repr ++ "-" ++ (k % s.perInstance.toNat).repr))) ∧
    s.expand base = (s.ids base).map fun id =>
      ⟨id, s.kind, s.scope, s.platform, s.version, s.video⟩ := by
  refine ⟨s.length_ids base, s.count_eq_replicas, s.toNat_mul_lt, s.one_le_perInstance,
    s.nodup_ids base, ?_, ?_, ?_, rfl⟩
  · intro hn
    simp [ids_eq_idsOf, idsOf, replicas, idAt, hn]
  · intro hn hm k hk
    rw [count_eq_replicas] at hk
    rw [ids_eq_idsOf, getElem?_idsOf hk, idAt, if_neg (by omega), if_pos hm]
  · intro hn hm k hk
    rw [count_eq_replicas] at hk
    rw [ids_eq_idsOf, getElem?_idsOf hk, idAt, if_neg (by omega), if_neg (by omega)]

example : (ofSettings [.instances 2, .perInstance 3]).ids "a" =
    ["a0-0", "a0-1", "a0-2", "a1-0", "a1-1", "a1-2"] := by
  decide +kernel

end Spec
end Lineup.Browser
