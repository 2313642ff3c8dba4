import Lineup.Scenario.Build
import Lineup.Proofs.Browser.Collision
import Lineup.Proofs.Roster.Order
import Lineup.Proofs.Scenario.Reading

/-!
Roles that can stand in one scenario. Two specs under one base get along exactly if
they are replicated in different ways. Specs under different bases get along unless
one base is the other one with a numbering behind it; a scenario without such roles
can always be built.
-/

namespace Lineup

open Browser

namespace Roster

theorem apart_iff {base : String} {s t : Spec} :
    Apart (base, s) (base, t) ↔ s.shape ≠ t.shape := by
  rw [← not_iff_not, not_not, ← Spec.share_iff_same_shape base s t, Apart, List.disjoint_left]
  simp only [not_forall, not_not, exists_prop]
  rfl

theorem apart_of_not_continues {c c' : Addition} (hne : c.1 ≠ c'.1)
    (h : ¬ Spec.Continues c'.1 c.1 c.2) (h' : ¬ Spec.Continues c.1 c'.1 c'.2) : Apart c c' := by
  intro id hc hc'
  exact (Spec.continues_of_share hne hc hc').elim h h'

/-- What was added cannot be added again. -/
theorem add_again {r r' : Roster} {base : String} {s : Spec} (h : r.add base s = .ok r') :
    ∃ id, r'.add base s = .error (.duplicateIdentity id) := by
  obtain ⟨hadmits, rfl⟩ := (add_eq_ok_iff_admits (c := (base, s))).mp h
  cases hadd : (r.extend (base, s)).add base s with
  | error f =>
    obtain ⟨id, -, rfl⟩ := add_eq_error hadmits.limit hadd
    exact ⟨id, rfl⟩
  | ok r'' =>
    obtain ⟨hagain, -⟩ := (add_eq_ok_iff_admits (c := (base, s))).mp hadd
    have hapart := ((admits_extend_iff r (base, s) (base, s)).mp hagain).2
    exact absurd rfl (apart_iff.mp hapart)

/-- Two specs under one base can both be added if their shapes differ, and only then. -/
theorem addAll_pair_isOk_iff (name : Option String) (base : String) {s t : Spec}
    (hs : s.count ≤ Spec.limit) (ht : t.count ≤ Spec.limit) :
    (∃ r, (fresh name).addAll [(base, s), (base, t)] = .ok r) ↔ s.shape ≠ t.shape := by
  rw [addAll_fresh_isOk_iff, List.pairwise_pair, apart_iff]
  simp [hs, ht]

end Roster

namespace Scenario

open Roster

/-- No role is another one with a numbering behind it. -/
def Definition.Compatible (d : Definition) : Prop :=
  ∀ role ∈ d.roles.keys, ∀ rest, Numbering rest → role ++ rest ∉ d.roles.keys

theorem Definition.Compatible.not_continues {d : Definition} (h : d.Compatible)
    {e e' : String × Spec} (he : e ∈ d.roles.entries) (he' : e' ∈ d.roles.entries) :
    ¬ Spec.Continues e'.1 e.1 e.2 := by
  rintro ⟨-, rest, hrest, hrole⟩
  apply h e.1 (List.mem_map_of_mem he) rest hrest
  rw [← hrole]
  exact List.mem_map_of_mem he'

theorem Definition.build_of_compatible {d : Definition} (hb : d.Bounded) (hc : d.Compatible) :
    ∃ r, d.build = .ok r := by
  refine (addAll_fresh_isOk_iff (some d.name) d.roles.entries).mpr ⟨hb, ?_⟩
  refine d.roles.increasing.imp_of_mem fun he he' hlt => ?_
  exact apart_of_not_continues (ne_of_lt hlt) (hc.not_continues he he') (hc.not_continues he' he)

/-- **Collisions.** -/
theorem share_only_if_continues :
    (∀ (base : String) (s t : Spec),
      (∃ id ∈ s.ids base, id ∈ t.ids base) ↔ s.shape = t.shape) ∧
    (∀ (a b : String) (s t : Spec), a ≠ b → (∃ id ∈ s.ids a, id ∈ t.ids b) →
      Spec.Continues b a s ∨ Spec.Continues a b t) ∧
    (∀ (r r' : Roster) (base : String) (s : Spec), r.add base s = .ok r' →
      ∃ id, r'.add base s = .error (.duplicateIdentity id)) ∧
    (∀ (name : Option String) (base : String) (s t : Spec),
      s.count ≤ Spec.limit → t.count ≤ Spec.limit →
      ((∃ r, (fresh name).addAll [(base, s), (base, t)] = .ok r) ↔ s.shape ≠ t.shape)) ∧
    ∀ d : Definition, d.Bounded → d.Compatible → ∃ r, d.build = .ok r := by
  refine ⟨Spec.share_iff_same_shape, ?_, fun _ _ _ _ => add_again, ?_,
    fun _ => Definition.build_of_compatible⟩
  · rintro a b s t hne ⟨id, hs, ht⟩
    exact Spec.continues_of_share hne hs ht
  · intro name base s t hs ht
    exact addAll_pair_isOk_iff name base hs ht

end Scenario
end Lineup
