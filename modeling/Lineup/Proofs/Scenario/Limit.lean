import Lineup.Proofs.Scenario.Loading

/-!
The limit on the number of browsers is drawn twice, when a spec is read and when
it is added to a roster. Both draw it where exact arithmetic does, so a file that
is read never meets the second one.
-/

namespace Lineup.Scenario

open Browser

/-- Settings for two factors make a spec with these factors, whatever was set before. -/
theorem factors_ofSettings (others : List Setting) {n m : Nat} (hn : n < 2 ^ 32) (hm : 1 ≤ m)
    (hm' : m < 2 ^ 32) :
    let s := Spec.ofSettings (others ++ [.instances (.ofNat n), .perInstance (.ofNat m)])
    s.instances.toNat = n ∧ s.perInstance.toNat = m := by
  have hne : UInt32.ofNat m ≠ 0 := by
    intro h
    have htoNat := congrArg UInt32.toNat h
    rw [UInt32.toNat_ofNat_of_lt' hm'] at htoNat
    have hzero : (0 : UInt32).toNat = 0 := rfl
    omega
  rw [Spec.ofSettings, List.foldl_append]
  simp only [List.foldl_cons, List.foldl_nil, Draft.set, Draft.spec, hne, ↓reduceIte]
  exact ⟨UInt32.toNat_ofNat_of_lt' hn, UInt32.toNat_ofNat_of_lt' hm'⟩

theorem count_of_factors {s : Spec} {n m : Nat} (hn : s.instances.toNat = n)
    (hm : s.perInstance.toNat = m) (h0 : n ≠ 0) : s.count = n * m := by
  rw [Spec.count_eq_replicas, replicas, hn, hm, if_neg h0]

/-- A spec with the factors of one that is refused when it is read is refused by every roster. -/
theorem add_of_not_fits {w : WrittenSpec} (h : ¬ w.Fits) (hn : w.exactInstances < 2 ^ 32)
    (hm : w.exactPerInstance < 2 ^ 32) (others : List Setting) (r : Roster) (base : String) :
    r.add base (.ofSettings (others ++ [.instances (.ofNat w.exactInstances.toNat),
      .perInstance (.ofNat w.exactPerInstance.toNat)])) =
    .error (.replicationLimit base (w.exactInstances * w.exactPerInstance).toNat Spec.limit) := by
  have hn0 := w.exactInstances_nonneg
  have hm0 := w.one_le_exactPerInstance
  have hne : w.exactInstances ≠ 0 := fun h0 => h (.inl h0)
  have hlt : Spec.limit < w.exactInstances * w.exactPerInstance := by
    by_contra hle
    exact h (.inr (by omega))
  obtain ⟨hi, hp⟩ := factors_ofSettings others (n := w.exactInstances.toNat)
    (m := w.exactPerInstance.toNat) (by omega) (by omega) (by omega)
  have hcount := count_of_factors hi hp (by omega)
  rw [← Int.toNat_mul hn0 (by omega)] at hcount
  rw [Roster.add_of_limit_lt (by omega), hcount]

theorem load_ne_replicationLimit (w : World Id) (path : Path) (id : String) (count limit : Nat) :
    (load w path).run ≠ .error (.replicationLimit id count limit) := by
  intro h
  have hloads := loads_load w path
  rw [h] at hloads
  cases hloads

/-- **One limit.** -/
theorem written_and_added_limit (w : WrittenSpec) :
    ((∃ s, w.spec = .ok s) ↔
      w.exactInstances = 0 ∨ w.exactInstances * w.exactPerInstance ≤ Spec.limit) ∧
    (∀ s, w.spec = .ok s →
      (s.instances.toNat : Int) = w.exactInstances ∧
      (s.count : Int) =
        (if w.exactInstances = 0 then 1 else w.exactInstances * w.exactPerInstance) ∧
      (∀ base, s.ids base = idsOf base w.exactInstances.toNat w.exactPerInstance.toNat) ∧
      ∀ (r : Roster) (base id : String) (count limit : Nat),
        r.add base s ≠ .error (.replicationLimit id count limit)) ∧
    (∀ c, w.spec = .error c →
      c = .tooMany w.exactInstances w.exactPerInstance Spec.limit ∧
      (w.exactInstances < 2 ^ 32 → w.exactPerInstance < 2 ^ 32 →
        ∀ (others : List Setting) (r : Roster) (base : String),
          r.add base (.ofSettings (others ++ [.instances (.ofNat w.exactInstances.toNat),
            .perInstance (.ofNat w.exactPerInstance.toNat)])) =
          .error (.replicationLimit base (w.exactInstances * w.exactPerInstance).toNat
            Spec.limit))) ∧
    ∀ (world : World Id) (path : Path) (id : String) (count limit : Nat),
      (load world path).run ≠ .error (.replicationLimit id count limit) := by
  refine ⟨?accepts, ?accepted, ?refused, load_ne_replicationLimit⟩
  case accepts =>
    constructor
    · rintro ⟨s, hs⟩
      exact (WrittenSpec.spec_eq_ok_iff.mp hs).1
    · intro hfits
      exact ⟨_, WrittenSpec.spec_eq_ok_iff.mpr ⟨hfits, rfl⟩⟩
  case accepted =>
    intro s hs
    have hle := WrittenSpec.count_le_limit hs
    obtain ⟨hfits, rfl⟩ := WrittenSpec.spec_eq_ok_iff.mp hs
    refine ⟨?_, WrittenSpec.count_ofSettings hfits, WrittenSpec.ids_ofSettings hfits, ?_⟩
    · rw [WrittenSpec.toNat_instances_ofSettings hfits]
      exact Int.toNat_of_nonneg w.exactInstances_nonneg
    · intro r base id count limit hadd
      obtain ⟨id', -, hf⟩ := Roster.add_eq_error hle hadd
      cases hf
  case refused =>
    intro c hc
    obtain ⟨hover, rfl⟩ := WrittenSpec.spec_eq_error_iff.mp hc
    exact ⟨rfl, fun hn hm => add_of_not_fits hover hn hm⟩

end Lineup.Scenario
