import Lineup.Proofs.Roster.Outcome
import Lineup.Proofs.Roster.Reserving

/-!
Replication as an abbreviation. To add a spec that stands for many browsers is to add
each of them under its own identifier, by a spec for one browser. Both end alike for
every roster: `add_eq_addAll`. What differs is what a failure leaves behind, which is
nothing for the spec as a whole, and the browsers before the failing one otherwise.
-/

namespace Lineup

open Browser InPlace

namespace Browser.Spec

/-- A spec for one browser that is like those of another spec. -/
structure SingleOf (t s : Spec) : Prop where
  kind : t.kind = s.kind
  scope : t.scope = s.scope
  platform : t.platform = s.platform
  version : t.version = s.version
  video : t.video = s.video
  instances : t.instances = 0

theorem SingleOf.instanceAt_eq {t s : Spec} (h : t.SingleOf s) : t.instanceAt = s.instanceAt := by
  funext id
  simp only [instanceAt, h.kind, h.scope, h.platform, h.version, h.video]

end Browser.Spec

namespace Roster

/-! ## One browser after another -/

theorem add_single {t : Spec} (ht : t.instances = 0) (r : Roster) (id : String) :
    r.add id t = (r.reserved.reserve id).map fun reserved =>
      { r with reserved, browsers := r.browsers.insert id (t.instanceAt id) } := by
  have hids : t.ids id = [id] := Addition.ids_of_single (c := (id, t)) ht
  have hlimit : ¬ t.count > Spec.limit := by
    rw [Spec.count, if_pos ht]
    decide
  rw [add, if_neg hlimit, Spec.expand, hids, Reservations.reserveAll_singleton]
  cases r.reserved.reserve id <;> rfl

theorem addAll_singles {t : Spec} (ht : t.instances = 0) (ids : List String) (r : Roster) :
    r.addAll (ids.map (·, t)) = (ids.foldlM Reservations.reserve r.reserved).map fun reserved =>
      { r with
        reserved
        browsers := r.browsers.insertMany (ids.map fun id => (id, t.instanceAt id)) } := by
  induction ids generalizing r with
  | nil => rfl
  | cons id rest ih =>
    rw [List.map_cons, addAll, List.foldlM_cons, List.foldlM_cons, add_single ht]
    cases r.reserved.reserve id with
    | error f => rfl
    | ok reserved => exact ih _

/-- An addition as a whole is the additions of its browsers, all of them or none. -/
theorem add_eq_addAll {s t : Spec} (hlimit : s.count ≤ Spec.limit) (ht : t.SingleOf s) (r : Roster)
    (base : String) : r.add base s = r.addAll ((s.ids base).map (·, t)) := by
  have hentries : (s.expand base).map (fun b => (b.id, b)) =
      (s.ids base).map fun id => (id, s.instanceAt id) := Addition.entries_eq (base, s)
  rw [addAll_singles ht.instances, ← Reservations.reserveAll_eq_foldlM, ht.instanceAt_eq, add,
    if_neg (by omega), hentries]
  cases r.reserved.reserveAll (s.ids base) <;> rfl

/-! ## What is left behind -/

/-- A roster has what another one has, a browser of a spec under each of some identifiers, and
no more. -/
structure Registers (r : Roster) (s : Spec) (ids : List String) (r' : Roster) : Prop where
  name : r'.name = r.name
  browsers : r'.browsers.entries.Perm
    (r.browsers.entries ++ ids.map fun id => (id, s.instanceAt id))
  reserved : r'.reserved.ids.keys = r'.browsers.keys

theorem registers_of_addAll {r r' : Roster} {acc : List Addition} (h : Accounted r acc)
    {s t : Spec} (ht : t.SingleOf s) {ids : List String}
    (hadd : r.addAll (ids.map (·, t)) = .ok r') : Registers r s ids r' := by
  obtain ⟨hrun, haccepted⟩ := addAll_eq_ok hadd
  have hmade : (ids.map (·, t)).flatMap Addition.entries =
      ids.map fun id => (id, s.instanceAt id) := by
    rw [List.flatMap_map, List.map_eq_flatMap]
    refine List.flatMap_congr fun id _ => ?_
    rw [Addition.entries_eq, Addition.ids_of_single ht.instances, ht.instanceAt_eq,
      List.map_singleton]
  have hacc := h.run (ids.map (·, t))
  rw [hrun, haccepted] at hacc
  refine ⟨?_, ?_, hacc.reserved⟩
  · rw [← hrun, run_name]
  · have hentries := hacc.entries
    rw [List.flatMap_append, hmade] at hentries
    exact hentries.trans (h.entries.symm.append_right _)

namespace Registers

variable {r r' : Roster} {s : Spec} {ids : List String}

theorem keys (h : Registers r s ids r') : r'.browsers.keys.Perm (r.ids ++ ids) := by
  have hids : (ids.map fun id => (id, s.instanceAt id)).map (·.1) = ids := by
    rw [List.map_map]
    exact List.map_id _
  have hkeys := h.browsers.map (·.1)
  rwa [List.map_append, hids] at hkeys

theorem mem_reserved_iff (h : Registers r s ids r') (id : String) :
    id ∈ r'.reserved.ids.keys ↔ id ∈ r.ids ∨ id ∈ ids := by
  rw [h.reserved, h.keys.mem_iff, List.mem_append]

theorem not_mem (h : Registers r s ids r') {id : String} (hid : id ∈ ids) : id ∉ r.ids := by
  have hd := h.keys.nodup_iff.mp r'.browsers.nodup_keys
  exact fun hm => (List.nodup_append'.mp hd).2.2 hm hid

end Registers

theorem add_single_eq_error_iff {t : Spec} (ht : t.instances = 0) {r : Roster} {id : String}
    {f : Failure} :
    r.add id t = .error f ↔ id ∈ r.reserved.ids.keys ∧ f = .duplicateIdentity id := by
  rw [add_single ht, Steps.map_eq_error_iff, Reservations.reserve_eq_error_iff,
    Reservations.isReserved_iff]

/-- **Replication.** On every roster that is reached by additions, adding a spec and adding its
browsers one by one succeed alike and lead to the same roster, or fail with the same identifier. A
failure leaves nothing of the spec as a whole, and the browsers up to that identifier otherwise. -/
theorem replication_matches_one_by_one (name : Option String) (calls : List Addition)
    (base : String) {s t : Spec} (hlimit : s.count ≤ 1024) (ht : t.SingleOf s) :
    let r := ((addEach calls).run (fresh name)).2
    let oneByOne := inTurn fun id => addInPlace id t
    r.add base s = r.addAll ((s.ids base).map (·, t)) ∧
    (∀ r', (addInPlace base s).outcome r = (.ok (), r') ↔
      (oneByOne (s.ids base)).outcome r = (.ok (), r')) ∧
    (∀ r', (addInPlace base s).outcome r = (.ok (), r') → Registers r s (s.ids base) r') ∧
    (∀ f r', (addInPlace base s).outcome r = (.error f, r') ↔
      r' = r ∧ ∃ r₁, (oneByOne (s.ids base)).outcome r = (.error f, r₁)) ∧
    ∀ f r₁, (oneByOne (s.ids base)).outcome r = (.error f, r₁) ↔
      ∃ before id after, s.ids base = before ++ id :: after ∧
        (oneByOne before).outcome r = (.ok (), r₁) ∧ Registers r s before r₁ ∧
        (∀ id' ∈ before, id' ∉ r.ids) ∧ id ∈ r.ids ∧ f = .duplicateIdentity id := by
  intro r oneByOne
  have hacc : Accounted r ((fresh name).accepted calls) := by
    have hrun := (accounted_fresh name).run calls
    rwa [← run_addEach] at hrun
  have hwhole : r.add base s = r.addAll ((s.ids base).map (·, t)) := add_eq_addAll hlimit ht r base
  have hstep : ∀ id r, (addInPlace id t).outcome r = kept r (r.add id t) :=
    fun id r => outcome_addInPlace id t r
  have hturns : ∀ ids : List String,
      ids.foldlM (fun r id => r.add id t) r = r.addAll (ids.map (·, t)) :=
    fun ids => by rw [addAll, List.foldlM_map]
  have hregisters : ∀ {ids r'}, (oneByOne ids).outcome r = (.ok (), r') → Registers r s ids r' := by
    intro ids r' hids
    rw [outcome_inTurn_eq_ok_iff hstep, hturns] at hids
    exact registers_of_addAll hacc ht hids
  have hsucceeds : ∀ r', (addInPlace base s).outcome r = (.ok (), r') ↔
      (oneByOne (s.ids base)).outcome r = (.ok (), r') := by
    intro r'
    rw [outcome_addInPlace, kept_eq_ok_iff, outcome_inTurn_eq_ok_iff hstep, hturns, hwhole]
  refine ⟨hwhole, hsucceeds, fun r' hr' => hregisters ((hsucceeds r').mp hr'), fun f r' => ?fails,
    fun f r₁ => ?first⟩
  case fails =>
    rw [outcome_addInPlace, hwhole, ← hturns, kept_foldlM_eq_error_iff hstep]
  case first =>
    rw [outcome_inTurn_eq_error_iff hstep]
    constructor
    · rintro ⟨before, id, after, hids, hbefore, hid⟩
      have hleft := hregisters hbefore
      obtain ⟨htaken, rfl⟩ := (add_single_eq_error_iff ht.instances).mp hid
      -- The identifiers before it are other ones, so it was taken before the first of them.
      have hold := ((hleft.mem_reserved_iff id).mp htaken).resolve_right (not_mem_of_ids_eq hids)
      exact ⟨before, id, after, hids, hbefore, hleft, fun _ => hleft.not_mem, hold, rfl⟩
    · rintro ⟨before, id, after, hids, hbefore, hleft, -, hold, rfl⟩
      refine ⟨before, id, after, hids, hbefore, ?_⟩
      exact (add_single_eq_error_iff ht.instances).mpr
        ⟨(hleft.mem_reserved_iff id).mpr (.inl hold), rfl⟩

/-- A Firefox in three instances, where the third one is taken. -/
def foxes : Spec := .ofSettings [.kind .firefox, .version "47", .instances 3]

def fox : Spec := .ofSettings [.kind .firefox, .version "47"]

theorem replication_matches_one_by_one_foxes :
    let r := ((addEach [("fox2", fox)]).run (fresh none)).2
    foxes.count ≤ 1024 ∧ fox.SingleOf foxes ∧
    (addInPlace "fox" foxes).outcome r = (.error (.duplicateIdentity "fox2"), r) ∧
    ∃ r₁, (inTurn (fun id => addInPlace id fox) (foxes.ids "fox")).outcome r =
        (.error (.duplicateIdentity "fox2"), r₁) ∧
      r₁.ids = ["fox0", "fox1", "fox2"] := by
  intro r
  have hlimit : foxes.count ≤ 1024 := by decide +kernel
  have ht : fox.SingleOf foxes := ⟨rfl, rfl, rfl, rfl, rfl, rfl⟩
  obtain ⟨-, -, -, hfails, -⟩ :=
    replication_matches_one_by_one none [("fox2", fox)] "fox" hlimit ht
  have hturns : ((inTurn (fun id => addInPlace id fox) (foxes.ids "fox")).outcome r).1 =
      .error (.duplicateIdentity "fox2") := by decide +kernel
  have hleft : ((inTurn (fun id => addInPlace id fox) (foxes.ids "fox")).outcome r).2.ids =
      ["fox0", "fox1", "fox2"] := by decide +kernel
  refine ⟨hlimit, ht, (hfails _ r).mpr ⟨rfl, _, Prod.ext hturns rfl⟩, _, Prod.ext hturns rfl, hleft⟩

end Roster
end Lineup
