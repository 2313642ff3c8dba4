import Lineup.Proofs.Roster.Outcome
import Lineup.Proofs.Scenario.Loading

/-!
What a scenario is built into. The roles are added in the order of their bytes, so the
first role that is beyond the limit, or that brings in an identifier of a role before it,
is what the building fails with. If there is no such role, the roster is the union of
what the roles stand for, and no identifier in it comes from two roles.
-/

namespace Lineup

open Browser Text

namespace Scenario.Definition

/-- A role brings in the identifiers of its spec. -/
def Brings (d : Definition) (role id : String) : Prop :=
  ∃ s, d.roles.find? role = some s ∧ id ∈ s.ids role

/-- A role before this one, in the order of bytes, brings in the identifier. -/
def Claimed (d : Definition) (role id : String) : Prop :=
  ∃ role', bytes role' < bytes role ∧ d.Brings role' id

/-- Nothing is wrong with the roles before this one. -/
structure Smooth (d : Definition) (role : String) : Prop where
  limit : ∀ role' s', bytes role' < bytes role → d.roles.find? role' = some s' → s'.count ≤ 1024
  apart : ∀ role' id, bytes role' < bytes role → d.Brings role' id → ¬ d.Claimed role' id

/-- The first identifier of a role, in the order in which they are made, that a role before it
brings in as well. -/
def FirstClaimed (d : Definition) (role : String) (s : Spec) (id : String) : Prop :=
  ∃ before after, s.ids role = before ++ id :: after ∧ d.Claimed role id ∧
    ∀ id' ∈ before, ¬ d.Claimed role id'

/-- A roster has the browsers of all roles and no more. -/
structure Unites (d : Definition) (r : Roster) : Prop where
  name : r.name = some d.name
  browsers : r.browsers.entries.Perm
    (d.roles.entries.flatMap fun e => (e.2.expand e.1).map fun b => (b.id, b))
  reserved : r.reserved.ids.keys = r.browsers.keys

/-- No identifier is brought in by two roles. -/
def Disjoint (d : Definition) : Prop :=
  ∀ role role' id, d.Brings role id → d.Brings role' id → role = role'

/-- The outcomes of building a scenario. -/
inductive Builds (d : Definition) : Except Failure Roster → Prop
  | tooMany {role : String} {s : Spec} : d.roles.find? role = some s → d.Smooth role →
      1024 < s.count → Builds d (.error (.replicationLimit role s.count 1024))
  | clash {role id : String} {s : Spec} : d.roles.find? role = some s → d.Smooth role →
      s.count ≤ 1024 → d.FirstClaimed role s id → Builds d (.error (.duplicateIdentity id))
  | built {r : Roster} : d.Bounded → d.Disjoint → d.Unites r → Builds d (.ok r)

/-! ## Roles and additions -/

theorem brings_iff {d : Definition} {role id : String} :
    d.Brings role id ↔ ∃ c : Addition, c ∈ d.roles.entries ∧ c.1 = role ∧ id ∈ c.ids := by
  constructor
  · rintro ⟨s, hs, hid⟩
    exact ⟨(role, s), (Keyed.mem_entries_iff _ _ _).mpr hs, rfl, hid⟩
  · rintro ⟨⟨role', s⟩, hc, rfl, hid⟩
    exact ⟨s, (Keyed.mem_entries_iff _ _ _).mp hc, hid⟩

theorem brings_of_mem {d : Definition} {c : Addition} {id : String} (hc : c ∈ d.roles.entries)
    (hid : id ∈ c.ids) : d.Brings c.1 id := brings_iff.mpr ⟨c, hc, rfl, hid⟩

theorem apart_of_pairwise {l : List Addition} (h : l.Pairwise Roster.Apart) {c c' : Addition}
    (hc : c ∈ l) (hc' : c' ∈ l) (hne : c ≠ c') : Roster.Apart c c' :=
  have : Std.Symm Roster.Apart := ⟨fun _ _ => Roster.Apart.symm⟩
  h.forall hc hc' hne

section

variable {d : Definition} {before after : List Addition} {c : Addition}

theorem mem_before_iff_bytes (h : d.roles.entries = before ++ c :: after) {c' : Addition} :
    c' ∈ before ↔ c' ∈ d.roles.entries ∧ bytes c'.1 < bytes c.1 := by
  rw [Keyed.mem_before_iff h, lt_iff_bytes_lt]

theorem claimed_iff (h : d.roles.entries = before ++ c :: after) {id : String} :
    d.Claimed c.1 id ↔ ∃ c' ∈ before, id ∈ c'.ids := by
  constructor
  · rintro ⟨role', hlt, hbrings⟩
    obtain ⟨c', hc', rfl, hid⟩ := brings_iff.mp hbrings
    exact ⟨c', (mem_before_iff_bytes h).mpr ⟨hc', hlt⟩, hid⟩
  · rintro ⟨c', hc', hid⟩
    obtain ⟨hmem, hlt⟩ := (mem_before_iff_bytes h).mp hc'
    exact ⟨c'.1, hlt, brings_of_mem hmem hid⟩

/-- Nothing is wrong with the roles before one exactly if they can all be added. -/
theorem smooth_iff (h : d.roles.entries = before ++ c :: after) :
    d.Smooth c.1 ↔ (∀ c' ∈ before, c'.2.count ≤ Spec.limit) ∧ before.Pairwise Roster.Apart := by
  constructor
  · rintro ⟨hlimit, hapart⟩
    refine ⟨fun c' hc' => ?_, ?_⟩
    · obtain ⟨hmem, hlt⟩ := (mem_before_iff_bytes h).mp hc'
      exact hlimit c'.1 c'.2 hlt ((Keyed.mem_entries_iff _ _ _).mp hmem)
    · have hincreasing := d.roles.increasing
      rw [h] at hincreasing
      have hfront := (List.pairwise_append.mp hincreasing).1
      refine hfront.imp_of_mem fun {c₁ c₂} hc₁ hc₂ hlt id hid₁ hid₂ => ?_
      obtain ⟨hmem₁, -⟩ := (mem_before_iff_bytes h).mp hc₁
      obtain ⟨hmem₂, hlt₂⟩ := (mem_before_iff_bytes h).mp hc₂
      exact hapart c₂.1 id hlt₂ (brings_of_mem hmem₂ hid₂)
        ⟨c₁.1, (lt_iff_bytes_lt _ _).mp hlt, brings_of_mem hmem₁ hid₁⟩
  · rintro ⟨hlimit, hapart⟩
    constructor
    case limit =>
      intro role' s' hlt hs'
      have hmem := (Keyed.mem_entries_iff _ _ _).mpr hs'
      exact hlimit (role', s') ((mem_before_iff_bytes h).mpr ⟨hmem, hlt⟩)
    case apart =>
      rintro role' id hlt hbrings ⟨role'', hlt', hbrings'⟩
      obtain ⟨c₁, hc₁, rfl, hid₁⟩ := brings_iff.mp hbrings
      obtain ⟨c₂, hc₂, rfl, hid₂⟩ := brings_iff.mp hbrings'
      have hb₁ := (mem_before_iff_bytes h).mpr ⟨hc₁, hlt⟩
      have hb₂ := (mem_before_iff_bytes h).mpr ⟨hc₂, List.lt_trans hlt' hlt⟩
      have hne : c₂ ≠ c₁ := by
        rintro rfl
        exact List.lt_irrefl _ hlt'
      exact apart_of_pairwise hapart hb₂ hb₁ hne hid₂ hid₁

/-- What becomes of a role when those before it have been added: what these have reserved is what
is claimed. -/
theorem add_eq_error_iff (h : d.roles.entries = before ++ c :: after) {r : Roster}
    (hr : (Roster.named d.name).addAll before = .ok r) {f : Failure} :
    r.add c.1 c.2 = .error f ↔
      (1024 < c.2.count ∧ f = .replicationLimit c.1 c.2.count 1024) ∨
      (c.2.count ≤ 1024 ∧ ∃ id, d.FirstClaimed c.1 c.2 id ∧ f = .duplicateIdentity id) := by
  have hreserved : ∀ id, id ∈ r.reserved.ids.keys ↔ d.Claimed c.1 id := by
    intro id
    have hacc := @Roster.accounted_of_addAll (some d.name) r before hr
    rw [hacc.reserved, hacc.mem_keys_iff, claimed_iff h]
  rw [Roster.add_eq_error_iff]
  simp only [hreserved]
  refine or_congr Iff.rfl (and_congr_right' ?_)
  constructor
  · rintro ⟨front, id, back, hids, hfree, hclaimed, rfl⟩
    exact ⟨id, ⟨front, back, hids, hclaimed, hfree⟩, rfl⟩
  · rintro ⟨id, ⟨front, back, hids, hclaimed, hfree⟩, rfl⟩
    exact ⟨front, id, back, hids, hfree, hclaimed, rfl⟩

end

theorem disjoint_iff (d : Definition) : d.Disjoint ↔ d.roles.entries.Pairwise Roster.Apart := by
  constructor
  · intro hdisjoint
    refine d.roles.increasing.imp_of_mem fun {c₁ c₂} hc₁ hc₂ hlt id hid₁ hid₂ => ?_
    have hrole := hdisjoint c₁.1 c₂.1 id (brings_of_mem hc₁ hid₁) (brings_of_mem hc₂ hid₂)
    exact ne_of_lt hlt hrole
  · intro hapart role role' id hbrings hbrings'
    obtain ⟨c₁, hc₁, rfl, hid₁⟩ := brings_iff.mp hbrings
    obtain ⟨c₂, hc₂, rfl, hid₂⟩ := brings_iff.mp hbrings'
    by_contra hne
    have hne' : c₁ ≠ c₂ := fun he => hne (congrArg Prod.fst he)
    exact apart_of_pairwise hapart hc₁ hc₂ hne' hid₁ hid₂

/-! ## Outcomes -/

theorem build_isOk_iff (d : Definition) : (∃ r, d.build = .ok r) ↔ d.Bounded ∧ d.Disjoint := by
  rw [disjoint_iff]
  exact Roster.addAll_fresh_isOk_iff (some d.name) d.roles.entries

theorem unites_iff {d : Definition} {r r' : Roster} (h : d.build = .ok r) :
    d.Unites r' ↔ r' = r := by
  have hmakes := makes_of_build h
  have hacc := accounted_of_build h
  constructor
  · intro hunites
    have hacc' : Roster.Accounted r' d.roles.entries := ⟨hunites.reserved, hunites.browsers⟩
    exact hacc'.eq_of_perm hacc (hunites.name.trans hmakes.name.symm) (List.Perm.refl _)
  · rintro rfl
    exact ⟨hmakes.name, hacc.entries, hacc.reserved⟩

/-- The building fails with the first role that cannot be added to those before it. -/
theorem build_eq_error_iff {d : Definition} {f : Failure} :
    d.build = .error f ↔ ∃ role s, d.roles.find? role = some s ∧ d.Smooth role ∧
      ((1024 < s.count ∧ f = .replicationLimit role s.count 1024) ∨
        (s.count ≤ 1024 ∧ ∃ id, d.FirstClaimed role s id ∧ f = .duplicateIdentity id)) := by
  rw [build, Roster.addAll, Steps.foldlM_eq_error_iff]
  constructor
  · rintro ⟨before, c, after, r, hsplit, hr, hf⟩
    have hc : c ∈ d.roles.entries := by
      rw [hsplit]
      exact List.mem_append_right _ List.mem_cons_self
    have hsmooth := (smooth_iff hsplit).mpr
      ((Roster.addAll_fresh_isOk_iff (some d.name) before).mp ⟨r, hr⟩)
    exact ⟨c.1, c.2, (Keyed.mem_entries_iff _ _ _).mp hc, hsmooth, (add_eq_error_iff hsplit hr).mp hf⟩
  · rintro ⟨role, s, hs, hsmooth, hf⟩
    obtain ⟨before, after, hsplit⟩ := List.append_of_mem ((Keyed.mem_entries_iff _ _ _).mpr hs)
    obtain ⟨r, hr⟩ := (Roster.addAll_fresh_isOk_iff (some d.name) before).mpr
      ((smooth_iff hsplit).mp hsmooth)
    exact ⟨before, (role, s), after, r, hsplit, hr, (add_eq_error_iff hsplit hr).mpr hf⟩

theorem build_iff_builds (d : Definition) (result : Except Failure Roster) :
    d.build = result ↔ d.Builds result := by
  constructor
  · rintro rfl
    cases hbuild : d.build with
    | ok r =>
      obtain ⟨hbounded, hdisjoint⟩ := (build_isOk_iff d).mp ⟨r, hbuild⟩
      exact .built hbounded hdisjoint ((unites_iff hbuild).mpr rfl)
    | error f =>
      obtain ⟨role, s, hs, hsmooth, ⟨hlt, rfl⟩ | ⟨hle, id, hfirst, rfl⟩⟩ :=
        build_eq_error_iff.mp hbuild
      · exact .tooMany hs hsmooth hlt
      · exact .clash hs hsmooth hle hfirst
  · intro hbuilds
    cases hbuilds with
    | tooMany hs hsmooth hlt =>
      exact build_eq_error_iff.mpr ⟨_, _, hs, hsmooth, .inl ⟨hlt, rfl⟩⟩
    | clash hs hsmooth hle hfirst =>
      exact build_eq_error_iff.mpr ⟨_, _, hs, hsmooth, .inr ⟨hle, _, hfirst, rfl⟩⟩
    | built hbounded hdisjoint hunites =>
      obtain ⟨r, hr⟩ := (build_isOk_iff d).mpr ⟨hbounded, hdisjoint⟩
      rw [hr, (unites_iff hr).mp hunites]

/-- **Building.** A scenario has one outcome. If every spec is within the limit it can be built
exactly if no identifier comes from two roles, and otherwise fails with an identifier of the first
role that has one in common with a role before it. -/
theorem build_unites_or_blames (d : Definition) :
    (∀ result, d.build = result ↔ d.Builds result) ∧
    (d.Bounded →
      ((∃ r, d.build = .ok r) ↔
        ∀ role role' id, d.Brings role id → d.Brings role' id → role = role') ∧
      ∀ f, d.build = .error f → ∃ role s id, f = .duplicateIdentity id ∧
        d.roles.find? role = some s ∧ d.Smooth role ∧ d.FirstClaimed role s id) := by
  refine ⟨build_iff_builds d, fun hbounded => ⟨?_, fun f hf => ?_⟩⟩
  · rw [build_isOk_iff]
    exact and_iff_right hbounded
  · obtain ⟨role, s, hs, hsmooth, ⟨hlt, -⟩ | ⟨-, id, hfirst, rfl⟩⟩ := build_eq_error_iff.mp hf
    · have hle : s.count ≤ 1024 := hbounded _ ((Keyed.mem_entries_iff _ _ _).mpr hs)
      omega
    · exact ⟨role, s, id, rfl, hs, hsmooth, hfirst⟩

-- The role `cam1` comes after `cam`, which makes two browsers and of them `cam1` second.
example :
    Definition.build ⟨"", .ofList [("cam1", .ofSettings []), ("cam", .ofSettings [.instances 2])]⟩ =
      .error (.duplicateIdentity "cam1") := by
  decide +kernel

end Scenario.Definition
end Lineup
