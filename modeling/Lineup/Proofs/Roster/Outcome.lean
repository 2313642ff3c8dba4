import Lineup.Proofs.Roster.InPlace
import Lineup.Proofs.Roster.Order

/-!
What becomes of one addition to a roster that was reached by additions. A spec beyond
the limit is refused for that alone. Otherwise the first of its identifiers that is
registered, in the order in which they are made, is what the addition fails with, and
if there is none all of its browsers are registered. After a failure the roster is what
it was, and so is all that comes after.
-/

namespace Lineup.Roster

open Browser InPlace

/-- A roster has the browsers that another one has and those of an addition, and no more. -/
structure Gains (r : Roster) (c : Addition) (r' : Roster) : Prop where
  name : r'.name = r.name
  browsers : r'.browsers.entries.Perm
    (r.browsers.entries ++ (c.2.expand c.1).map fun b => (b.id, b))
  reserved : r'.reserved.ids.keys = r'.browsers.keys

/-- The outcomes of an addition: how it ends, and what it leaves behind. -/
inductive Adds (r : Roster) (base : String) (s : Spec) : Except Failure Unit × Roster → Prop
  | tooMany : 1024 < s.count → Adds r base s (.error (.replicationLimit base s.count 1024), r)
  | taken {before after : List String} {id : String} : s.count ≤ 1024 →
      s.ids base = before ++ id :: after → (∀ id' ∈ before, id' ∉ r.ids) → id ∈ r.ids →
      Adds r base s (.error (.duplicateIdentity id), r)
  | added {r' : Roster} : s.count ≤ 1024 → (∀ id ∈ s.ids base, id ∉ r.ids) →
      Gains r (base, s) r' → Adds r base s (.ok (), r')

/-! ## Failures -/

/-- The identifiers of a spec do not clash with each other. -/
theorem not_mem_of_ids_eq {base id : String} {s : Spec} {before after : List String}
    (h : s.ids base = before ++ id :: after) : id ∉ before := by
  have hd := s.nodup_ids base
  rw [h, List.nodup_append'] at hd
  exact fun hm => hd.2.2 hm List.mem_cons_self

/-- In a batch without repetitions the first clash is the first identifier that is taken. -/
theorem firstClash?_eq_find? {r : Reservations} {seen batch : List String} (hd : batch.Nodup)
    (hnew : ∀ id ∈ batch, id ∉ seen) : r.firstClash? seen batch = batch.find? r.isReserved := by
  induction batch generalizing seen with
  | nil => rfl
  | cons id rest ih =>
    obtain ⟨hid, hrest⟩ := List.nodup_cons.mp hd
    have hseen : seen.contains id = false := by
      simpa using hnew id List.mem_cons_self
    rw [Reservations.firstClash?, List.find?_cons, hseen, Bool.or_false]
    cases r.isReserved id with
    | true => rfl
    | false =>
      refine ih hrest fun id' hm hs => ?_
      rcases List.mem_cons.mp hs with rfl | hs
      · exact hid hm
      · exact hnew id' (List.mem_cons_of_mem _ hm) hs

theorem add_eq_error_iff {r : Roster} {base : String} {s : Spec} {f : Failure} :
    r.add base s = .error f ↔
      (Spec.limit < s.count ∧ f = .replicationLimit base s.count Spec.limit) ∨
      (s.count ≤ Spec.limit ∧ ∃ before id after, s.ids base = before ++ id :: after ∧
        (∀ id' ∈ before, id' ∉ r.reserved.ids.keys) ∧ id ∈ r.reserved.ids.keys ∧
          f = .duplicateIdentity id) := by
  by_cases hlimit : Spec.limit < s.count
  · rw [add_of_limit_lt hlimit, Except.error.injEq]
    have hle : ¬ s.count ≤ Spec.limit := by omega
    simp [hlimit, hle, eq_comm]
  have hle : s.count ≤ Spec.limit := by omega
  have hreserve : r.add base s = .error f ↔ r.reserved.reserveAll (s.ids base) = .error f := by
    rw [add, if_neg hlimit]
    cases r.reserved.reserveAll (s.ids base) <;> simp [bind, Except.bind]
  rw [hreserve, Reservations.reserveAll_eq_error_iff]
  constructor
  · rintro ⟨before, id, after, hids, hfree, -, hclash, rfl⟩
    have htaken := hclash.resolve_right (not_mem_of_ids_eq hids)
    exact .inr ⟨hle, before, id, after, hids, hfree, htaken, rfl⟩
  · rintro (⟨h, -⟩ | ⟨-, before, id, after, hids, hfree, htaken, rfl⟩)
    · exact absurd h hlimit
    · have hd : before.Nodup := by
        have hd := s.nodup_ids base
        rw [hids] at hd
        exact hd.of_append_left
      exact ⟨before, id, after, hids, hfree, hd, .inl htaken, rfl⟩

/-! ## Successes -/

theorem gains_iff {r r' : Roster} {acc : List Addition} {c : Addition} (h : Accounted r acc)
    (hadmits : Admits r c) : Gains r c r' ↔ r' = r.extend c := by
  have hextend : Accounted (r.extend c) (acc ++ [c]) :=
    h.add (add_eq_ok_iff_admits.mpr ⟨hadmits, rfl⟩)
  constructor
  · intro hgains
    have hacc : Accounted r' (acc ++ [c]) := by
      refine ⟨hgains.reserved, hgains.browsers.trans ?_⟩
      rw [List.flatMap_append, List.flatMap_singleton]
      exact h.entries.append_right c.entries
    exact hacc.eq_of_perm hextend hgains.name (List.Perm.refl _)
  · rintro rfl
    refine ⟨rfl, ?_, hextend.reserved⟩
    refine Keyed.entries_insertMany_perm c.entries r.browsers ?_ ?_
    · rw [Addition.keys_entries, ← h.reserved]
      exact hadmits.free
    · rw [Addition.keys_entries]
      exact c.2.nodup_ids c.1

/-- The outcome of an addition to a roster that is made of additions. -/
theorem outcome_iff_adds {r : Roster} {acc : List Addition} (h : Accounted r acc) (base : String)
    (s : Spec) (result : Except Failure Unit × Roster) :
    (addInPlace base s).outcome r = result ↔ Adds r base s result := by
  have hids : r.reserved.ids.keys = r.ids := h.reserved
  rw [outcome_addInPlace]
  constructor
  · rintro rfl
    cases hadd : r.add base s with
    | ok r' =>
      obtain ⟨hadmits, hr'⟩ := (add_eq_ok_iff_admits (c := (base, s))).mp hadd
      refine .added hadmits.limit ?_ ((gains_iff h hadmits).mpr hr')
      rw [← hids]
      exact hadmits.free
    | error f =>
      rcases add_eq_error_iff.mp hadd with ⟨hlt, rfl⟩ | ⟨hle, before, id, after, hsplit, hfree,
        htaken, rfl⟩
      · exact .tooMany hlt
      · rw [hids] at hfree htaken
        exact .taken hle hsplit hfree htaken
  · intro hadds
    cases hadds with
    | tooMany hlt => rw [add_of_limit_lt hlt]; rfl
    | taken hle hsplit hfree htaken =>
      rw [← hids] at hfree htaken
      rw [add_eq_error_iff.mpr (.inr ⟨hle, _, _, _, hsplit, hfree, htaken, rfl⟩)]
      rfl
    | added hle hfree hgains =>
      rw [← hids] at hfree
      have hadmits : Admits r (base, s) := ⟨hle, hfree⟩
      have hadd := (add_eq_ok_iff_admits (c := (base, s))).mpr
        ⟨hadmits, (gains_iff h hadmits).mp hgains⟩
      rw [hadd]
      rfl

/-- **One addition.** An addition to a roster that was reached by additions has one outcome, and
makes no difference to what comes after if it fails. No identifier of its own batch is ever in
its way. -/
theorem addition_exact_or_nothing (name : Option String) (calls : List Addition) (base : String)
    (s : Spec) :
    let r := (fresh name).run calls
    ((addEach calls).run (fresh name)).2 = r ∧
    (∀ result, (addInPlace base s).outcome r = result ↔ Adds r base s result) ∧
    (addInPlace base s).outcome r = kept r (r.add base s) ∧
    (∀ f r', (addInPlace base s).outcome r = (.error f, r') → ∀ more,
      (addEach ((base, s) :: more)).run r =
        (.error f :: ((addEach more).run r).1, ((addEach more).run r).2)) ∧
    s.count = (if s.instances.toNat = 0 then 1
      else s.instances.toNat * s.perInstance.toNat) ∧
    (∀ before id after, s.ids base = before ++ id :: after → id ∉ before) ∧
    r.reserved.firstClash? [] (s.ids base) = (s.ids base).find? r.reserved.isReserved := by
  intro r
  have h : Accounted r _ := (accounted_fresh name).run calls
  refine ⟨run_addEach calls _, outcome_iff_adds h base s, outcome_addInPlace base s r, ?_,
    s.count_eq_replicas, fun _ _ _ => not_mem_of_ids_eq,
    firstClash?_eq_find? (s.nodup_ids base) fun _ _ => List.not_mem_nil⟩
  intro f r' hfail more
  have hsame : r' = r := by
    rw [outcome_addInPlace] at hfail
    cases hadd : r.add base s <;> rw [hadd] at hfail <;> cases hfail
    rfl
  rw [run_addEach_cons, hfail, hsame]

-- The identifiers are compared in the order in which they are made, not in their own order.
example :
    let r := (fresh none).run [("cam10", .ofSettings []), ("cam2", .ofSettings [])]
    r.ids = ["cam10", "cam2"] ∧
    r.add "cam" (.ofSettings [.instances 11]) = .error (.duplicateIdentity "cam2") := by
  decide +kernel

end Lineup.Roster
