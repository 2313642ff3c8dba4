import Lineup.Roster.Basic
import Lineup.Proofs.Browser.Identifiers
import Lineup.Proofs.Roster.Reservations

/-!
One addition to a roster. It succeeds exactly if the spec is within the limit and
none of its identifiers is taken, and then it does all it can do at once.
-/

namespace Lineup

open Browser

/-- A base and the spec that is to be added under it. -/
abbrev Addition := String × Spec

namespace Addition

def ids (c : Addition) : List String := c.2.ids c.1

/-- What the browsers of an addition are registered as. -/
def entries (c : Addition) : List (String × Instance) := (c.2.expand c.1).map fun b => (b.id, b)

theorem entries_eq (c : Addition) : c.entries = c.ids.map fun id => (id, c.2.instanceAt id) := by
  rw [entries, Spec.expand, List.map_map]
  rfl

theorem keys_entries (c : Addition) : c.entries.map (·.1) = c.ids := by
  rw [entries_eq, List.map_map]
  exact List.map_id _

theorem mem_entries_iff (c : Addition) (id : String) (b : Instance) :
    (id, b) ∈ c.entries ↔ id ∈ c.ids ∧ b = c.2.instanceAt id := by
  rw [entries_eq, List.mem_map]
  constructor
  · rintro ⟨id', hm, he⟩
    cases he
    exact ⟨hm, rfl⟩
  · rintro ⟨hm, rfl⟩
    exact ⟨id, hm, rfl⟩

theorem ids_of_single {c : Addition} (h : c.2.instances = 0) : c.ids = [c.1] := by
  simp [ids, Spec.ids, Spec.suffixes, h]

theorem length_entries (c : Addition) : c.entries.length = c.2.count := by
  rw [entries_eq, List.length_map, ids, Spec.length_ids]

end Addition

namespace Roster

/-- The roster with all browsers of an addition in it. -/
def extend (r : Roster) (c : Addition) : Roster :=
  { r with
    reserved := c.ids.foldl Reservations.add r.reserved
    browsers := r.browsers.insertMany c.entries }

theorem add_of_limit_lt {base : String} {s : Spec} (h : Spec.limit < s.count) (r : Roster) :
    r.add base s = .error (.replicationLimit base s.count Spec.limit) := by
  rw [add, if_pos h]

theorem add_eq_ok_iff {r r' : Roster} {base : String} {s : Spec} :
    r.add base s = .ok r' ↔
      s.count ≤ Spec.limit ∧ (∀ id ∈ s.ids base, id ∉ r.reserved.ids.keys) ∧
        r' = r.extend (base, s) := by
  rw [add]
  split
  · rename_i hlimit
    constructor
    · intro h
      cases h
    · rintro ⟨hle, -⟩
      omega
  · rename_i hlimit
    cases hres : r.reserved.reserveAll (s.ids base) with
    | error f =>
      constructor
      · intro h
        cases h
      · rintro ⟨-, hfree, -⟩
        have hok := Reservations.reserveAll_eq_ok_iff.mpr ⟨hfree, s.nodup_ids base, rfl⟩
        rw [hres] at hok
        cases hok
    | ok reserved =>
      obtain ⟨hfree, -, rfl⟩ := Reservations.reserveAll_eq_ok_iff.mp hres
      constructor
      · intro h
        cases h
        exact ⟨by omega, hfree, rfl⟩
      · rintro ⟨-, -, rfl⟩
        rfl

/-- An addition within the limit can only fail because an identifier is taken. -/
theorem add_eq_error {r : Roster} {base : String} {s : Spec} {f : Failure}
    (hlimit : s.count ≤ Spec.limit) (h : r.add base s = .error f) :
    ∃ id ∈ s.ids base, f = .duplicateIdentity id := by
  rw [add, if_neg (by omega)] at h
  cases hres : r.reserved.reserveAll (s.ids base) with
  | error g =>
    rw [hres] at h
    cases h
    exact Reservations.reserveAll_eq_error hres
  | ok reserved =>
    rw [hres] at h
    cases h

/-! ## Names -/

/-- A roster under the name that `f` makes of its own. -/
def rename (f : String → String) (r : Roster) : Roster := { r with name := r.name.map f }

theorem add_rename (f : String → String) (r : Roster) (base : String) (s : Spec) :
    (r.rename f).add base s = (r.add base s).map (rename f) := by
  unfold Roster.add
  split
  · rfl
  · change (r.reserved.reserveAll (s.ids base) >>= fun _ => _) =
      Except.map _ (r.reserved.reserveAll (s.ids base) >>= fun _ => _)
    cases r.reserved.reserveAll (s.ids base) <;> rfl

theorem addAll_rename (f : String → String) (r : Roster) (calls : List Addition) :
    (r.rename f).addAll calls = (r.addAll calls).map (rename f) := by
  induction calls generalizing r with
  | nil => rfl
  | cons c rest ih =>
    rw [addAll, addAll, List.foldlM_cons, List.foldlM_cons, add_rename]
    cases r.add c.1 c.2 with
    | error e => rfl
    | ok r₁ => exact ih r₁

end Roster
end Lineup
