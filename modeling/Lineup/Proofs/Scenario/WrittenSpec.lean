import Lineup.Scenario.Schema
import Lineup.Proofs.Browser.Identifiers

/-!
The factors of a written spec, in exact arithmetic. The words that they are
computed in may saturate, and one of them is cut at the limit, but neither shows:
the decision on the limit, the number of browsers and the identifiers are those
of the exact factors.
-/

namespace Lineup

open Browser

namespace Numeral

theorem toInt_saturatingMul (a b : Int64) :
    (saturatingMul a b).toInt = max (-2 ^ 63) (min (a.toInt * b.toInt) (2 ^ 63 - 1)) := by
  unfold saturatingMul Int64.ofIntClamp
  split
  · rename_i hlow
    rw [Int64.toInt_minValue] at hlow
    split
    · rename_i hhigh
      rw [Int64.toInt_maxValue] at hhigh
      rw [Int64.toInt_ofIntLE]
      omega
    · rename_i hhigh
      rw [Int64.toInt_maxValue] at hhigh ⊢
      omega
  · rename_i hlow
    rw [Int64.toInt_minValue] at hlow ⊢
    omega

theorem toInt_max (a b : Int64) : (max a b).toInt = max a.toInt b.toInt := by
  have h : max a b = if a ≤ b then b else a := rfl
  rw [h]
  split
  · rename_i hle
    exact (max_eq_right (Int64.le_iff_toInt_le.mp hle)).symm
  · rename_i hle
    rw [Int64.le_iff_toInt_le] at hle
    omega

theorem toInt_min (a b : Int64) : (min a b).toInt = min a.toInt b.toInt := by
  have h : min a b = if a ≤ b then a else b := rfl
  rw [h]
  split
  · rename_i hle
    exact (min_eq_left (Int64.le_iff_toInt_le.mp hle)).symm
  · rename_i hle
    rw [Int64.le_iff_toInt_le] at hle
    omega

theorem toNat_toUInt64 {a : Int64} (h : 0 ≤ a.toInt) : a.toUInt64.toNat = a.toInt.toNat :=
  Int64.toNat_toUInt64_of_le (Int64.le_iff_toInt_le.mpr h)

theorem toNat_toUInt32 {a : Int64} (h : 0 ≤ a.toInt) (hlt : a.toInt < 2 ^ 32) :
    a.toUInt64.toUInt32.toNat = a.toInt.toNat := by
  rw [UInt64.toNat_toUInt32, toNat_toUInt64 h]
  omega

end Numeral

namespace Scenario.WrittenSpec

/-- The number of instances, without bounds. -/
def exactInstances (w : WrittenSpec) : Int := max ((w.instances.map Int64.toInt).getD 0) 0

/-- The number of browsers per instance, without bounds. -/
def exactPerInstance (w : WrittenSpec) : Int := max ((w.perInstance.map Int64.toInt).getD 1) 1

/-- Whether the exact factors stand for no more browsers than one spec may. -/
def Fits (w : WrittenSpec) : Prop :=
  w.exactInstances = 0 ∨ w.exactInstances * w.exactPerInstance ≤ Spec.limit

theorem toInt_wantedInstances (w : WrittenSpec) : w.wantedInstances.toInt = w.exactInstances := by
  rw [wantedInstances, Numeral.toInt_max, exactInstances]
  cases w.instances <;> rfl

theorem toInt_wantedPerInstance (w : WrittenSpec) :
    w.wantedPerInstance.toInt = w.exactPerInstance := by
  rw [wantedPerInstance, Numeral.toInt_max, exactPerInstance]
  cases w.perInstance <;> rfl

theorem exactInstances_nonneg (w : WrittenSpec) : 0 ≤ w.exactInstances := by
  unfold exactInstances
  omega

theorem one_le_exactPerInstance (w : WrittenSpec) : 1 ≤ w.exactPerInstance := by
  unfold exactPerInstance
  omega

theorem wantedInstances_eq_zero_iff (w : WrittenSpec) :
    w.wantedInstances = 0 ↔ w.exactInstances = 0 := by
  rw [← toInt_wantedInstances, ← Int64.toInt_inj]
  rfl

/-- Within the limit the second factor is too, if it counts at all. -/
theorem exactPerInstance_le {w : WrittenSpec} (hn : w.exactInstances ≠ 0)
    (h : w.exactInstances * w.exactPerInstance ≤ Spec.limit) :
    w.exactInstances ≤ Spec.limit ∧ w.exactPerInstance ≤ Spec.limit := by
  have hn1 : 1 ≤ w.exactInstances := by
    have := w.exactInstances_nonneg
    omega
  have hm1 := w.one_le_exactPerInstance
  have hleft := Int.mul_le_mul_of_nonneg_left hm1 (by omega : 0 ≤ w.exactInstances)
  have hright := Int.mul_le_mul_of_nonneg_right hn1 (by omega : 0 ≤ w.exactPerInstance)
  omega

/-- The saturated product is on the same side of the limit as the exact one. -/
theorem limit_lt_wantedCount_iff (w : WrittenSpec) :
    Spec.limit < w.wantedCount.toUInt64.toNat ↔ ¬ w.Fits := by
  unfold wantedCount Fits
  have hlimit : Spec.limit = 1024 := rfl
  split
  · rename_i hn
    rw [wantedInstances_eq_zero_iff] at hn
    have hone : (1 : Int64).toUInt64.toNat = 1 := rfl
    simp [hn, hone, hlimit]
  · rename_i hn
    rw [wantedInstances_eq_zero_iff] at hn
    have hnonneg := Int.mul_nonneg w.exactInstances_nonneg
      (by have := w.one_le_exactPerInstance; omega : 0 ≤ w.exactPerInstance)
    have hsat := Numeral.toInt_saturatingMul w.wantedInstances w.wantedPerInstance
    rw [toInt_wantedInstances, toInt_wantedPerInstance] at hsat
    rw [Numeral.toNat_toUInt64 (by omega), hsat]
    omega

theorem spec_of_fits {w : WrittenSpec} (h : w.Fits) : w.spec = .ok (.ofSettings w.settings) := by
  have hcount : ¬ Spec.limit < w.wantedCount.toUInt64.toNat := by
    rw [limit_lt_wantedCount_iff, not_not]
    exact h
  rw [spec, if_neg hcount]

theorem spec_of_not_fits {w : WrittenSpec} (h : ¬ w.Fits) :
    w.spec = .error (.tooMany w.exactInstances w.exactPerInstance Spec.limit) := by
  have hcount : Spec.limit < w.wantedCount.toUInt64.toNat := (limit_lt_wantedCount_iff w).mpr h
  rw [spec, if_pos hcount, toInt_wantedInstances, toInt_wantedPerInstance]

theorem spec_eq_ok_iff {w : WrittenSpec} {s : Spec} :
    w.spec = .ok s ↔ w.Fits ∧ s = .ofSettings w.settings := by
  by_cases h : w.Fits
  · simp [spec_of_fits h, h, eq_comm]
  · simp [spec_of_not_fits h, h]

theorem spec_eq_error_iff {w : WrittenSpec} {c : Document.Cause} :
    w.spec = .error c ↔
      ¬ w.Fits ∧ c = .tooMany w.exactInstances w.exactPerInstance Spec.limit := by
  by_cases h : w.Fits
  · simp [spec_of_fits h, h]
  · simp [spec_of_not_fits h, h, eq_comm]

/-! ## The spec that is accepted -/

theorem instances_ofSettings (w : WrittenSpec) :
    (Spec.ofSettings w.settings).instances = w.wantedInstances.toUInt64.toUInt32 := by
  unfold settings
  cases w.platform <;> cases w.version <;> cases w.video <;> rfl

theorem perInstance_ofSettings (w : WrittenSpec) :
    (Spec.ofSettings w.settings).perInstance =
      (Draft.mk .chrome .beside none none none 0
        (min w.wantedPerInstance (.ofNat Spec.limit)).toUInt64.toUInt32).spec.perInstance := by
  unfold settings
  cases w.platform <;> cases w.version <;> cases w.video <;> rfl

theorem exactInstances_le {w : WrittenSpec} (h : w.Fits) : w.exactInstances ≤ Spec.limit := by
  rcases h with hn | hle
  · omega
  · by_cases hn : w.exactInstances = 0
    · omega
    · exact (exactPerInstance_le hn hle).1

theorem toNat_instances_ofSettings {w : WrittenSpec} (h : w.Fits) :
    (Spec.ofSettings w.settings).instances.toNat = w.exactInstances.toNat := by
  have hlimit : Spec.limit = 1024 := rfl
  have hle := exactInstances_le h
  have hnonneg := w.exactInstances_nonneg
  rw [← toInt_wantedInstances] at hle hnonneg ⊢
  rw [instances_ofSettings, Numeral.toNat_toUInt32 hnonneg (by omega)]

theorem toNat_perInstance_ofSettings (w : WrittenSpec) :
    (Spec.ofSettings w.settings).perInstance.toNat =
      (min w.exactPerInstance Spec.limit).toNat := by
  have hlimit : Spec.limit = 1024 := rfl
  have hcut : (Int64.ofNat Spec.limit).toInt = 1024 := rfl
  have hone := w.one_le_exactPerInstance
  have hmin : (min w.wantedPerInstance (.ofNat Spec.limit)).toInt =
      min w.exactPerInstance Spec.limit := by
    rw [Numeral.toInt_min, toInt_wantedPerInstance, hcut, hlimit]
    rfl
  have hword := Numeral.toNat_toUInt32 (a := min w.wantedPerInstance (.ofNat Spec.limit))
    (by omega) (by omega)
  have hne : (min w.wantedPerInstance (.ofNat Spec.limit)).toUInt64.toUInt32 ≠ 0 := by
    intro h0
    rw [h0, hmin] at hword
    have hzero : (0 : UInt32).toNat = 0 := rfl
    omega
  rw [perInstance_ofSettings, Draft.spec]
  simp only [hne, ↓reduceIte]
  rw [hword, hmin]

/-- The cut second factor leaves the identifiers as they are. -/
theorem ids_ofSettings {w : WrittenSpec} (h : w.Fits) (base : String) :
    (Spec.ofSettings w.settings).ids base =
      idsOf base w.exactInstances.toNat w.exactPerInstance.toNat := by
  rw [Spec.ids_eq_idsOf, toNat_instances_ofSettings h, toNat_perInstance_ofSettings]
  by_cases hn : w.exactInstances = 0
  · simp [hn, idsOf, replicas, idAt]
  · have hle := (exactPerInstance_le hn (h.resolve_left hn)).2
    rw [min_eq_left hle]

theorem count_ofSettings {w : WrittenSpec} (h : w.Fits) :
    ((Spec.ofSettings w.settings).count : Int) =
      if w.exactInstances = 0 then 1 else w.exactInstances * w.exactPerInstance := by
  have hlen := (Spec.ofSettings w.settings).length_ids ""
  rw [ids_ofSettings h, length_idsOf, replicas] at hlen
  have hn := w.exactInstances_nonneg
  have hm := w.one_le_exactPerInstance
  rw [← hlen]
  by_cases h0 : w.exactInstances = 0
  · simp [h0]
  · have hn0 : w.exactInstances.toNat ≠ 0 := by omega
    rw [if_neg hn0, if_neg h0, Int.natCast_mul, Int.toNat_of_nonneg hn,
      Int.toNat_of_nonneg (by omega)]

theorem count_le_limit {w : WrittenSpec} {s : Spec} (h : w.spec = .ok s) :
    s.count ≤ Spec.limit := by
  obtain ⟨hfits, rfl⟩ := spec_eq_ok_iff.mp h
  have hcount := count_ofSettings hfits
  have hlimit : Spec.limit = 1024 := rfl
  unfold Fits at hfits
  split at hcount <;> omega

end Scenario.WrittenSpec
end Lineup
