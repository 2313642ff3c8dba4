import Lineup.Proofs.Keyed
import Lineup.Proofs.Scenario.SpecMembers

/-!
Role maps. Roles are read one after another, each with its spec, and a role is
compared with the earlier ones once its spec has been read. So nothing is lost: a
role map that is read has one entry for each member, and otherwise the fault is that
of the first member that fails.
-/

namespace Lineup.Scenario

open Browser Document Steps

variable {ν ε : Type} [Reading ν ε]

/-- What a spec is read as, whatever its causes are reported as. -/
def SpecOf (v : ν) (s : Spec) : Prop := ∃ w, specRecord.read {} v = .ok w ∧ w.spec = .ok s

theorem specOf_iff {v : ν} {s : Spec} (report : Cause → ε) :
    SpecOf v s ↔ readSpec report v = .ok s := readSpec_eq_ok_iff.symm

theorem specOf_of_maps {v : ν} {ms : List (String × ν)} (hv : Maps v ms) {s : Spec} :
    SpecOf v s ↔ ∃ w, Writes ms w ∧ w.spec = .ok s := by
  simp only [SpecOf, read_specRecord_iff hv]

/-- An entry that stands for a role and its spec. -/
structure Decodes (e : Entry ν ε) (c : String × Spec) : Prop where
  name : e.name "a string" = .ok c.1
  spec : readSpec e.atValue e.value = .ok c.2

/-- How an entry fails behind earlier roles. -/
inductive Fails (earlier : List String) (e : Entry ν ε) : ε → Prop
  | name {fault : ε} (h : e.name "a string" = .error fault) : Fails earlier e fault
  | spec {role : String} {fault : ε} (hname : e.name "a string" = .ok role)
    (h : readSpec e.atValue e.value = .error fault) : Fails earlier e fault
  | repeated {c : String × Spec} (h : Decodes e c) (hc : c.1 ∈ earlier) :
    Fails earlier e (e.atValue (.repeatedRole c.1))

theorem Fails.congr {earlier earlier' : List String} {e : Entry ν ε} {fault : ε}
    (h : ∀ role, role ∈ earlier ↔ role ∈ earlier') (hf : Fails earlier e fault) :
    Fails earlier' e fault := by
  cases hf with
  | name hname => exact .name hname
  | spec hname hspec => exact .spec hname hspec
  | repeated hc hmem => exact .repeated hc ((h _).mp hmem)

/-! ## One role -/

variable {done roles : Keyed Spec} {e : Entry ν ε} {es : List (Entry ν ε)} {fault : ε}

theorem readRoles_cons_eq_ok_iff : readRoles done (e :: es) = .ok roles ↔
    ∃ c, Decodes e c ∧ c.1 ∉ done.keys ∧ readRoles (done.insert c.1 c.2) es = .ok roles := by
  rw [readRoles, bind_eq_ok_iff]
  constructor
  · rintro ⟨role, hrole, h⟩
    obtain ⟨s, hs, h⟩ := bind_eq_ok_iff.mp h
    split at h
    · cases h
    · rename_i hnew
      exact ⟨(role, s), ⟨hrole, hs⟩, by rwa [Keyed.mem_keys_iff], h⟩
  · rintro ⟨c, hc, hnew, h⟩
    rw [Keyed.mem_keys_iff] at hnew
    refine ⟨c.1, hc.name, bind_eq_ok_iff.mpr ⟨c.2, hc.spec, ?_⟩⟩
    rwa [if_neg hnew]

theorem readRoles_cons_eq_error_iff : readRoles done (e :: es) = .error fault ↔
    Fails done.keys e fault ∨
      ∃ c, Decodes e c ∧ c.1 ∉ done.keys ∧ readRoles (done.insert c.1 c.2) es = .error fault := by
  rw [readRoles, bind_eq_error_iff]
  constructor
  · rintro (h | ⟨role, hrole, h⟩)
    · exact .inl (.name h)
    · rcases bind_eq_error_iff.mp h with h | ⟨s, hs, h⟩
      · exact .inl (.spec hrole h)
      · split at h
        · rename_i hold
          cases h
          rw [← Keyed.mem_keys_iff] at hold
          exact .inl (.repeated (c := (role, s)) ⟨hrole, hs⟩ hold)
        · rename_i hnew
          exact .inr ⟨(role, s), ⟨hrole, hs⟩, by rwa [Keyed.mem_keys_iff], h⟩
  · rintro (hf | ⟨c, hc, hnew, h⟩)
    · cases hf with
      | name h => exact .inl h
      | spec hname h => exact .inr ⟨_, hname, bind_eq_error_iff.mpr (.inl h)⟩
      | repeated hc hold =>
        rw [Keyed.mem_keys_iff] at hold
        refine .inr ⟨_, hc.name, bind_eq_error_iff.mpr (.inr ⟨_, hc.spec, ?_⟩)⟩
        rw [if_pos hold]
    · rw [Keyed.mem_keys_iff] at hnew
      refine .inr ⟨c.1, hc.name, bind_eq_error_iff.mpr (.inr ⟨c.2, hc.spec, ?_⟩)⟩
      rwa [if_neg hnew]

/-! ## All roles -/

theorem readRoles_eq_ok_iff : readRoles done es = .ok roles ↔
    ∃ cs, List.Forall₂ Decodes es cs ∧ (cs.map (·.1)).Nodup ∧ (∀ c ∈ cs, c.1 ∉ done.keys) ∧
      roles = done.insertMany cs := by
  induction es generalizing done with
  | nil =>
    constructor
    · intro h
      cases h
      exact ⟨[], .nil, List.nodup_nil, by simp, rfl⟩
    · rintro ⟨cs, hcs, -, -, rfl⟩
      cases hcs
      rfl
  | cons e es ih =>
    rw [readRoles_cons_eq_ok_iff]
    constructor
    · rintro ⟨c, hc, hnew, h⟩
      obtain ⟨cs, hcs, hd, hfresh, rfl⟩ := ih.mp h
      simp only [Keyed.mem_keys_insert, not_or] at hfresh
      -- By then the first role is among the earlier ones, so the others differ from it.
      refine ⟨c :: cs, .cons hc hcs, ?_, ?_, rfl⟩
      · rw [List.map_cons, List.nodup_cons]
        refine ⟨fun hm => ?_, hd⟩
        obtain ⟨c', hc', heq⟩ := List.mem_map.mp hm
        exact (hfresh c' hc').1 heq
      · exact List.forall_mem_cons.mpr ⟨hnew, fun c' hc' => (hfresh c' hc').2⟩
    · rintro ⟨cs, hcs, hd, hfresh, rfl⟩
      cases hcs with
      | @cons _ c _ cs hc hcs =>
        rw [List.map_cons, List.nodup_cons] at hd
        obtain ⟨hnew, hfresh⟩ := List.forall_mem_cons.mp hfresh
        refine ⟨c, hc, hnew, ih.mpr ⟨cs, hcs, hd.2, fun c' hc' hm => ?_, rfl⟩⟩
        rcases (Keyed.mem_keys_insert _ _ _ _).mp hm with heq | hm
        · exact hd.1 (heq ▸ List.mem_map_of_mem hc')
        · exact hfresh c' hc' hm

/-- Roles fail at the first entry that fails behind the ones before it. What has been read
before that entry grows by one entry with each step, and so do the roles it is compared with. -/
theorem readRoles_eq_error_iff : readRoles done es = .error fault ↔
    ∃ before e after earlier, es = before ++ e :: after ∧
      readRoles done before = .ok earlier ∧ Fails earlier.keys e fault := by
  induction es generalizing done with
  | nil =>
    constructor
    · intro h
      cases h
    · rintro ⟨before, e, after, earlier, heq, -⟩
      cases before <;> cases heq
  | cons e es ih =>
    rw [readRoles_cons_eq_error_iff]
    constructor
    · rintro (hf | ⟨c, hc, hnew, h⟩)
      · exact ⟨[], e, es, done, rfl, rfl, hf⟩
      · obtain ⟨before, e', after, earlier, rfl, hbefore, hf⟩ := ih.mp h
        exact ⟨e :: before, e', after, earlier, rfl,
          readRoles_cons_eq_ok_iff.mpr ⟨c, hc, hnew, hbefore⟩, hf⟩
    · rintro ⟨before, e', after, earlier, heq, hbefore, hf⟩
      cases before with
      | nil =>
        cases heq
        cases hbefore
        exact .inl hf
      | cons e₀ before =>
        cases heq
        obtain ⟨c, hc, hnew, hbefore⟩ := readRoles_cons_eq_ok_iff.mp hbefore
        exact .inr ⟨c, hc, hnew, ih.mpr ⟨before, e', after, earlier, rfl, hbefore, hf⟩⟩

/-! ## Role maps -/

/-- One entry for each member, under its role and with its spec. -/
@[mk_iff]
structure HasRoles (ms : List (String × ν)) (roles : Keyed Spec) : Prop where
  distinct : (ms.map (·.1)).Nodup
  specs : Correspond SpecOf ms roles.entries

/-- The fault of the first entry that fails; the entries before it have different roles. -/
def FirstFault (es : List (Entry ν ε)) (fault : ε) : Prop :=
  ∃ before e after cs, es = before ++ e :: after ∧ List.Forall₂ Decodes before cs ∧
    (cs.map (·.1)).Nodup ∧ Fails (cs.map (·.1)) e fault

theorem readRoles_empty_eq_ok_iff : readRoles ∅ es = .ok roles ↔
    ∃ cs, List.Forall₂ Decodes es cs ∧ (cs.map (·.1)).Nodup ∧ roles.entries.Perm cs := by
  rw [readRoles_eq_ok_iff]
  refine exists_congr fun cs => and_congr_right' <| and_congr_right fun hd => ?_
  constructor
  · rintro ⟨-, rfl⟩
    exact Keyed.entries_ofList_perm hd
  · intro hperm
    have heq : roles = .ofList cs :=
      Keyed.eq_of_perm (hperm.trans (Keyed.entries_ofList_perm hd).symm)
    exact ⟨fun _ _ => List.not_mem_nil, heq⟩

theorem readRoles_empty_eq_error_iff : readRoles ∅ es = .error fault ↔ FirstFault es fault := by
  rw [readRoles_eq_error_iff]
  constructor
  · rintro ⟨before, e, after, earlier, heq, hbefore, hf⟩
    obtain ⟨cs, hcs, hd, hperm⟩ := readRoles_empty_eq_ok_iff.mp hbefore
    exact ⟨before, e, after, cs, heq, hcs, hd, hf.congr fun _ => (hperm.map _).mem_iff⟩
  · rintro ⟨before, e, after, cs, heq, hcs, hd, hf⟩
    have hperm := Keyed.entries_ofList_perm hd
    exact ⟨before, e, after, .ofList cs, heq, readRoles_empty_eq_ok_iff.mpr ⟨cs, hcs, hd, hperm⟩,
      hf.congr fun _ => (hperm.map _).mem_iff.symm⟩

variable {v : ν} {members : Entries ν ε} {ms : List (String × ν)}

theorem readRoleMap_of_isMap (hv : IsMap v members) : readRoleMap v = .ok roles ↔
    readRoles ∅ members.entries = .ok roles ∧ ∃ report, members.finish = .ok report := by
  rw [readRoleMap, hv.entries, bind_eq_ok_iff]
  constructor
  · rintro ⟨es, hes, h⟩
    cases hes
    obtain ⟨roles', hroles, h⟩ := bind_eq_ok_iff.mp h
    obtain ⟨report, hfinish, h⟩ := bind_eq_ok_iff.mp h
    cases h
    exact ⟨hroles, report, hfinish⟩
  · rintro ⟨hroles, report, hfinish⟩
    exact ⟨members, rfl, bind_eq_ok_iff.mpr ⟨roles, hroles,
      bind_eq_ok_iff.mpr ⟨report, hfinish, rfl⟩⟩⟩

theorem decodes_iff_of_hands {e : Entry ν ε} {m : String × ν} (he : e.Hands m)
    {c : String × Spec} : Decodes e c ↔ m.1 = c.1 ∧ SpecOf m.2 c.2 := by
  rw [← he.value, specOf_iff e.atValue]
  constructor
  · intro h
    exact ⟨Except.ok.inj ((he.name _).symm.trans h.name), h.spec⟩
  · rintro ⟨hname, hspec⟩
    exact ⟨hname ▸ he.name _, hspec⟩

/-- The entries of a role map that is read have readable names. -/
theorem hands_of_readRoleMap (hv : IsMap v members) (h : readRoleMap v = .ok roles) :
    ∃ ms, members.Hands ms := by
  obtain ⟨hroles, hfinish⟩ := (readRoleMap_of_isMap hv).mp h
  obtain ⟨cs, hcs, -⟩ := readRoles_empty_eq_ok_iff.mp hroles
  have hands : ∀ e ∈ members.entries, ∃ m, e.Hands m := by
    intro e he
    obtain ⟨c, -, hc⟩ := Pairing.exists_right hcs he
    exact ⟨(c.1, e.value), fun expected => hv.names e he _ expected _ hc.name, rfl⟩
  obtain ⟨ms, hms⟩ := Pairing.exists_forall₂ hands
  exact ⟨ms, hms, hfinish⟩

/-- **Role maps.** -/
theorem readRoleMap_eq_ok_iff (hv : Maps v ms) : readRoleMap v = .ok roles ↔ HasRoles ms roles := by
  obtain ⟨members, hmembers, hms⟩ := hv
  rw [readRoleMap_of_isMap hmembers, and_iff_left hms.finish, readRoles_empty_eq_ok_iff]
  constructor
  · rintro ⟨cs, hcs, hd, hperm⟩
    have hspecs : List.Forall₂ (fun m c => m.1 = c.1 ∧ SpecOf m.2 c.2) ms cs :=
      forall₂_comp (S := Decodes) (fun he hc => (decodes_iff_of_hands he).mp hc)
        hms.entries.flip hcs
    rw [← Pairing.map_eq (fun _ _ hc => hc.1) hspecs] at hd
    exact ⟨hd, cs, hspecs, hperm.symm⟩
  · rintro ⟨hd, cs, hspecs, hperm⟩
    rw [Pairing.map_eq (fun _ _ hc => hc.1) hspecs] at hd
    exact ⟨cs, forall₂_comp (fun he hc => (decodes_iff_of_hands he).mpr hc) hms.entries hspecs, hd,
      hperm.symm⟩

/-- **The first fault.** -/
theorem readRoleMap_eq_error_iff (hv : IsMap v members) (hms : members.Hands ms) :
    readRoleMap v = .error fault ↔ FirstFault members.entries fault := by
  obtain ⟨report, hfinish⟩ := hms.finish
  rw [← readRoles_empty_eq_error_iff, readRoleMap, hv.entries]
  cases hroles : readRoles ∅ members.entries with
  | error fault' => simp [bind, Except.bind, hroles]
  | ok roles => simp [bind, Except.bind, hroles, hfinish]

/-- A role map fails exactly if some spec does or some role stands there twice. -/
theorem readRoleMap_fails_iff (hv : Maps v ms) : (∃ fault, readRoleMap v = .error fault) ↔
    (∃ m ∈ ms, ∀ s, ¬ SpecOf m.2 s) ∨ ¬ (ms.map (·.1)).Nodup := by
  have hok : (∃ roles, readRoleMap v = .ok roles) ↔
      (∀ m ∈ ms, ∃ s, SpecOf m.2 s) ∧ (ms.map (·.1)).Nodup := by
    simp only [readRoleMap_eq_ok_iff hv]
    constructor
    · rintro ⟨roles, hd, cs, hspecs, -⟩
      refine ⟨fun m hm => ?_, hd⟩
      obtain ⟨c, -, -, hc⟩ := Pairing.exists_right hspecs hm
      exact ⟨c.2, hc⟩
    · rintro ⟨hspecs, hd⟩
      have hpairs : ∀ m ∈ ms, ∃ c : String × Spec, m.1 = c.1 ∧ SpecOf m.2 c.2 := by
        intro m hm
        obtain ⟨s, hs⟩ := hspecs m hm
        exact ⟨(m.1, s), rfl, hs⟩
      obtain ⟨cs, hcs⟩ := Pairing.exists_forall₂ hpairs
      have hd' := hd
      rw [Pairing.map_eq (fun _ _ hc => hc.1) hcs] at hd'
      exact ⟨.ofList cs, hd, cs, hcs, (Keyed.entries_ofList_perm hd').symm⟩
  have hnot : (∃ fault, readRoleMap v = .error fault) ↔ ¬ ∃ roles, readRoleMap v = .ok roles := by
    cases readRoleMap v <;> simp
  rw [hnot, hok, not_and_or]
  simp only [not_forall, not_exists, exists_prop]

end Lineup.Scenario
