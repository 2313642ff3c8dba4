import Lineup.Proofs.Roster.Run

/-!
The order of additions. A list of additions succeeds as a whole exactly if each of
them could be made on its own and no two of them share an identifier. This does not
depend on the order of the list, and neither does the roster that comes of it.
-/

namespace Lineup.Roster

open Browser Steps

/-- No identifier comes from both additions. -/
def Apart (c c' : Addition) : Prop := c.ids.Disjoint c'.ids

theorem Apart.symm {c c' : Addition} (h : Apart c c') : Apart c' c := List.Disjoint.symm h

/-- An addition that a roster would accept if no other came before it. -/
structure Admits (r : Roster) (c : Addition) : Prop where
  limit : c.2.count ≤ Spec.limit
  free : ∀ id ∈ c.ids, id ∉ r.reserved.ids.keys

theorem add_eq_ok_iff_admits {r r' : Roster} {c : Addition} :
    r.add c.1 c.2 = .ok r' ↔ Admits r c ∧ r' = r.extend c := by
  rw [add_eq_ok_iff]
  constructor
  · rintro ⟨hlimit, hfree, rfl⟩
    exact ⟨⟨hlimit, hfree⟩, rfl⟩
  · rintro ⟨⟨hlimit, hfree⟩, rfl⟩
    exact ⟨hlimit, hfree, rfl⟩

theorem mem_reserved_extend (r : Roster) (c : Addition) (id : String) :
    id ∈ (r.extend c).reserved.ids.keys ↔ id ∈ r.reserved.ids.keys ∨ id ∈ c.ids :=
  Reservations.mem_keys_foldl_add c.ids r.reserved id

/-- What an addition leaves free is what is apart from it. -/
theorem admits_extend_iff (r : Roster) (c c' : Addition) :
    Admits (r.extend c) c' ↔ Admits r c' ∧ Apart c c' := by
  constructor
  · rintro ⟨hlimit, hfree⟩
    refine ⟨⟨hlimit, fun id hid hm => ?_⟩, fun id hc hc' => ?_⟩
    · exact hfree id hid ((mem_reserved_extend r c id).mpr (.inl hm))
    · exact hfree id hc' ((mem_reserved_extend r c id).mpr (.inr hc))
  · rintro ⟨⟨hlimit, hfree⟩, hapart⟩
    refine ⟨hlimit, fun id hid hm => ?_⟩
    rcases (mem_reserved_extend r c id).mp hm with hm | hm
    · exact hfree id hid hm
    · exact hapart hm hid

/-- **Success.** -/
theorem addAll_isOk_iff (r : Roster) (calls : List Addition) :
    (∃ r', r.addAll calls = .ok r') ↔ (∀ c ∈ calls, Admits r c) ∧ calls.Pairwise Apart := by
  induction calls generalizing r with
  | nil =>
    constructor
    · intro _
      exact ⟨fun c hc => absurd hc List.not_mem_nil, .nil⟩
    · intro _
      exact ⟨r, rfl⟩
  | cons c rest ih =>
    have hstep : (∃ r', r.addAll (c :: rest) = .ok r') ↔
        Admits r c ∧ ∃ r', (r.extend c).addAll rest = .ok r' := by
      rw [addAll, List.foldlM_cons]
      simp only [bind_eq_ok_iff, add_eq_ok_iff_admits]
      constructor
      · rintro ⟨r', r₁, ⟨hc, rfl⟩, hrest⟩
        exact ⟨hc, r', hrest⟩
      · rintro ⟨hc, r', hrest⟩
        exact ⟨r', _, ⟨hc, rfl⟩, hrest⟩
    rw [hstep, ih, List.forall_mem_cons, List.pairwise_cons]
    simp only [admits_extend_iff]
    constructor
    · rintro ⟨hc, hrest, hpair⟩
      exact ⟨⟨hc, fun c' hc' => (hrest c' hc').1⟩, fun c' hc' => (hrest c' hc').2, hpair⟩
    · rintro ⟨⟨hc, hrest⟩, hapart, hpair⟩
      exact ⟨hc, fun c' hc' => ⟨hrest c' hc', hapart c' hc'⟩, hpair⟩

theorem admits_fresh_iff (name : Option String) (c : Addition) :
    Admits (fresh name) c ↔ c.2.count ≤ Spec.limit := by
  have hnone : (fresh name).reserved.ids.keys = [] := by cases name <;> rfl
  constructor
  · exact fun h => h.limit
  · exact fun h => ⟨h, fun id _ hm => by simp [hnone] at hm⟩

theorem addAll_fresh_isOk_iff (name : Option String) (calls : List Addition) :
    (∃ r, (fresh name).addAll calls = .ok r) ↔
      (∀ c ∈ calls, c.2.count ≤ Spec.limit) ∧ calls.Pairwise Apart := by
  rw [addAll_isOk_iff]
  simp only [admits_fresh_iff]

/-! ## Refusals -/

/-- The refused additions of a run in their order. -/
def refused (r : Roster) : List Addition → List Addition
  | [] => []
  | c :: rest =>
    match r.add c.1 c.2 with
    | .ok r' => refused r' rest
    | .error _ => c :: refused r rest

/-- Nothing is refused exactly if all additions succeed. -/
theorem refused_eq_nil_iff (r : Roster) (calls : List Addition) :
    refused r calls = [] ↔ ∃ r', r.addAll calls = .ok r' := by
  induction calls generalizing r with
  | nil => exact ⟨fun _ => ⟨r, rfl⟩, fun _ => rfl⟩
  | cons c rest ih =>
    rw [refused, addAll, List.foldlM_cons]
    cases r.add c.1 c.2 with
    | ok r₁ => exact ih r₁
    | error f =>
      constructor
      · intro h
        cases h
      · rintro ⟨r', h⟩
        cases h

/-- The additions that a roster is made of determine it, in any order. -/
theorem Accounted.eq_of_perm {r r' : Roster} {acc acc' : List Addition} (h : Accounted r acc)
    (h' : Accounted r' acc') (hname : r.name = r'.name) (hperm : acc.Perm acc') : r = r' := by
  have hbrowsers : r.browsers = r'.browsers :=
    Keyed.eq_of_perm ((h.entries.trans (hperm.flatMap_right _)).trans h'.entries.symm)
  have hreserved : r.reserved.ids = r'.reserved.ids := by
    apply Keyed.eq_of_keys_eq
    rw [h.reserved, h'.reserved, hbrowsers]
  cases r
  cases r'
  simp only [mk.injEq]
  exact ⟨hname, congrArg Reservations.mk hreserved, hbrowsers⟩

theorem Accounted.apart {r : Roster} {acc : List Addition} (h : Accounted r acc) :
    acc.Pairwise Apart := (List.nodup_flatMap.mp h.nodup_ids).2

/-- A roster can be made of its additions again, in any order. -/
theorem Accounted.addAll_fresh {r : Roster} {acc calls : List Addition} (h : Accounted r acc)
    (hlimit : ∀ c ∈ acc, c.2.count ≤ Spec.limit) (hperm : calls.Perm acc) :
    (fresh r.name).addAll calls = .ok r := by
  obtain ⟨r', hr'⟩ := (addAll_fresh_isOk_iff r.name calls).mpr
    ⟨fun c hc => hlimit c (hperm.mem_iff.mp hc), (hperm.pairwise_iff Apart.symm).mpr h.apart⟩
  rw [hr', (accounted_of_addAll hr').eq_of_perm h (name_of_addAll hr') hperm]

/-- **Order.** Additions to a fresh roster either all succeed in every order, and then every
order makes the same roster, or in every order some addition is refused. -/
theorem run_perm (name : Option String) {calls calls' : List Addition}
    (h : calls.Perm calls') :
    (refused (fresh name) calls = [] ∧ refused (fresh name) calls' = [] ∧
      (fresh name).run calls = (fresh name).run calls') ∨
    (refused (fresh name) calls ≠ [] ∧ refused (fresh name) calls' ≠ []) := by
  have hiff : refused (fresh name) calls = [] ↔ refused (fresh name) calls' = [] := by
    rw [refused_eq_nil_iff, refused_eq_nil_iff, addAll_fresh_isOk_iff, addAll_fresh_isOk_iff,
      h.pairwise_iff Apart.symm]
    simp only [h.mem_iff]
  by_cases hnone : refused (fresh name) calls = []
  · refine .inl ⟨hnone, hiff.mp hnone, ?_⟩
    obtain ⟨r, hr⟩ := (refused_eq_nil_iff _ _).mp hnone
    obtain ⟨r', hr'⟩ := (refused_eq_nil_iff _ _).mp (hiff.mp hnone)
    rw [(addAll_eq_ok hr).1, (addAll_eq_ok hr').1]
    refine (accounted_of_addAll hr).eq_of_perm (accounted_of_addAll hr') ?_ h
    rw [name_of_addAll hr, name_of_addAll hr']
  · exact .inr ⟨hnone, fun hnone' => hnone (hiff.mpr hnone')⟩

/-- Two cameras, one more with the name of the second, and one with a name of its own. -/
def threeCameras : List Addition := [("cam", .ofSettings [.instances 2]),
  ("cam1", .ofSettings []), ("cam2", .ofSettings [.kind .firefox])]

theorem run_perm_threeCameras :
    threeCameras.Perm threeCameras.reverse ∧
    ((refused (fresh none) threeCameras = [] ∧ refused (fresh none) threeCameras.reverse = [] ∧
      (fresh none).run threeCameras = (fresh none).run threeCameras.reverse) ∨
    (refused (fresh none) threeCameras ≠ [] ∧
      refused (fresh none) threeCameras.reverse ≠ [])) :=
  ⟨(List.reverse_perm _).symm, run_perm none (List.reverse_perm _).symm⟩

-- What is refused depends on the order, that something is refused does not.
example :
    (refused (fresh none) threeCameras).map (·.1) = ["cam1"] ∧
    (refused (fresh none) threeCameras.reverse).map (·.1) = ["cam"] := by
  decide +kernel

end Lineup.Roster
