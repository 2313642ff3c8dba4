import Lineup.Roster.Reservations
import Lineup.Proofs.Keyed

/-!
What a batch of reservations does: it is taken as a whole if every identifier in
it is free and stands in it once, and otherwise the failure names one of them.
-/

namespace Lineup.Reservations

theorem isReserved_iff (r : Reservations) (id : String) :
    r.isReserved id = true ↔ id ∈ r.ids.keys :=
  (Keyed.mem_keys_iff r.ids id).symm

theorem firstClash?_eq_none_iff (r : Reservations) (seen batch : List String) :
    r.firstClash? seen batch = none ↔
      (∀ id ∈ batch, id ∉ r.ids.keys ∧ id ∉ seen) ∧ batch.Nodup := by
  induction batch generalizing seen with
  | nil => simp [firstClash?]
  | cons id rest ih =>
    rw [firstClash?, List.forall_mem_cons, List.nodup_cons]
    split
    · rename_i h
      rw [Bool.or_eq_true, isReserved_iff, List.contains_iff_mem] at h
      constructor
      · intro h'
        cases h'
      · rintro ⟨⟨⟨hr, hs⟩, -⟩, -⟩
        exact absurd h (not_or.mpr ⟨hr, hs⟩)
    · rename_i h
      rw [Bool.or_eq_true, isReserved_iff, List.contains_iff_mem, not_or] at h
      rw [ih]
      constructor
      · rintro ⟨hrest, hd⟩
        refine ⟨⟨h, fun id' hm => ?_⟩, fun hm => ?_, hd⟩
        · exact ⟨(hrest id' hm).1, fun hs => (hrest id' hm).2 (List.mem_cons_of_mem _ hs)⟩
        · exact (hrest id hm).2 List.mem_cons_self
      · rintro ⟨⟨-, hrest⟩, hid, hd⟩
        refine ⟨fun id' hm => ⟨(hrest id' hm).1, fun hs => ?_⟩, hd⟩
        rcases List.mem_cons.mp hs with rfl | hs
        · exact hid hm
        · exact (hrest id' hm).2 hs

theorem firstClash?_mem {r : Reservations} {seen batch : List String} {id : String}
    (h : r.firstClash? seen batch = some id) : id ∈ batch := by
  induction batch generalizing seen with
  | nil => cases h
  | cons id' rest ih =>
    rw [firstClash?] at h
    split at h
    · cases h
      exact List.mem_cons_self
    · exact List.mem_cons_of_mem _ (ih h)

theorem ids_foldl_add (batch : List String) (r : Reservations) :
    (batch.foldl add r).ids = r.ids.insertMany (batch.map fun id => (id, ())) :=
  congrArg ids (Keyed.foldl_insert mk (fun id => (id, ())) (fun _ _ => rfl) batch r.ids)

theorem mem_keys_foldl_add (batch : List String) (r : Reservations) (id : String) :
    id ∈ (batch.foldl add r).ids.keys ↔ id ∈ r.ids.keys ∨ id ∈ batch := by
  rw [ids_foldl_add, Keyed.mem_keys_insertMany, List.map_map]
  exact or_congr_right (by simp)

theorem reserveAll_eq_ok_iff {r r' : Reservations} {batch : List String} :
    r.reserveAll batch = .ok r' ↔
      (∀ id ∈ batch, id ∉ r.ids.keys) ∧ batch.Nodup ∧ r' = batch.foldl add r := by
  have hnone := firstClash?_eq_none_iff r [] batch
  simp only [List.not_mem_nil, not_false_eq_true, and_true] at hnone
  rw [reserveAll]
  cases h : r.firstClash? [] batch with
  | none =>
    obtain ⟨hfree, hd⟩ := hnone.mp h
    constructor
    · intro h'
      cases h'
      exact ⟨hfree, hd, rfl⟩
    · rintro ⟨-, -, rfl⟩
      rfl
  | some id =>
    constructor
    · intro h'
      cases h'
    · rintro ⟨hfree, hd, -⟩
      rw [hnone.mpr ⟨hfree, hd⟩] at h
      cases h

theorem reserveAll_eq_error {r : Reservations} {batch : List String} {f : Failure}
    (h : r.reserveAll batch = .error f) : ∃ id ∈ batch, f = .duplicateIdentity id := by
  rw [reserveAll] at h
  cases hc : r.firstClash? [] batch with
  | none =>
    rw [hc] at h
    cases h
  | some id =>
    rw [hc] at h
    cases h
    exact ⟨id, firstClash?_mem hc, rfl⟩

end Lineup.Reservations
