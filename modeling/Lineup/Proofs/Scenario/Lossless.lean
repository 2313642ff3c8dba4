import Lineup.Proofs.Scenario.Contents

/-!
Scenario files in JSON and YAML lose nothing. A map of either format may hand a key
through more than once, and what is read of a file shows that none did: there is a
scenario for each element of the list, and in it a role for each member.
-/

namespace Lineup.Scenario

open Browser Document Steps

/-- **Nothing is lost.** -/
theorem read_loses_nothing :
    (∀ (n : Json.Node) file, FileLevel n → (readFile n = .ok file ↔ IsFile n file)) ∧
    (∀ (p : Yaml.Place) file, FileLevel p → (readFile p = .ok file ↔ IsFile p file)) ∧
    (∀ text file, Format.json.readScenarios text = .ok file → FileLevel (Json.ofText text) →
      IsFile (Json.ofText text) file) ∧
    (∀ text file, Format.yaml.readScenarios text = .ok file →
      FileLevel (Yaml.Place.root (Yaml.ofText text).1) →
      IsFile (Yaml.Place.root (Yaml.ofText text).1) file) ∧
    (∀ start members rest,
      let roles := Json.Node.object start members (.ok rest)
      (∀ fault, readRoleMap roles = .error fault ↔
        FirstFault (members.map Json.Node.entry) fault) ∧
      ((∃ fault, readRoleMap roles = .error fault) ↔
        (∃ m ∈ members, ∀ s, ¬ SpecOf m.value s) ∨ ¬ (members.map (·.key)).Nodup)) ∧
    (∀ (p : Yaml.Place) anchor tag members ms, p.target = .map anchor tag members true →
      p.Pairs members ms →
      (∀ fault, readRoleMap p = .error fault ↔ FirstFault (members.map p.entry) fault) ∧
      ((∃ fault, readRoleMap p = .error fault) ↔
        (∃ m ∈ ms, ∀ s, ¬ SpecOf m.2 s) ∨ ¬ (ms.map (·.1)).Nodup)) ∧
    ∀ role, (Cause.repeatedRole role).message = "duplicate browser role `" ++ role ++ "`" := by
  refine ⟨fun n file hn => readFile_eq_ok_iff hn, fun p file hp => readFile_eq_ok_iff hp,
    fun text file h hlevel => ?json, fun text file h hlevel => ?yaml,
    fun start members rest => ?object,
    fun p anchor tag members ms htarget hpairs => ?place, fun role => rfl⟩
  case json => exact (readFile_eq_ok_iff hlevel).mp (readScenarios_json_eq_ok_iff.mp h).1
  case yaml => exact (readFile_eq_ok_iff hlevel).mp (readScenarios_yaml_eq_ok_iff.mp h).1
  case object =>
    have hmap := Json.Node.isMap_object start members (.ok rest)
    have hms := Json.Node.hands_pairs members rest
    refine ⟨fun fault => readRoleMap_eq_error_iff hmap hms, ?_⟩
    have hfails := readRoleMap_fails_iff ⟨_, hmap, hms⟩
    rw [Json.Node.keys_pairs] at hfails
    simpa [Json.Node.pairs] using hfails
  case place =>
    have hmap := Yaml.Place.isMap_of_target htarget
    have hms := Yaml.Place.hands_of_pairs hpairs
    exact ⟨fun fault => readRoleMap_eq_error_iff hmap hms, readRoleMap_fails_iff ⟨_, hmap, hms⟩⟩

/-- A role map with these roles, each for a spec that leaves everything to its defaults. -/
def plainRoles (roles : List String) : Json.Node :=
  .object [] (roles.map fun role => ⟨role, [], .object [] [] (.ok [])⟩) (.ok [])

/-- A file with one scenario of these roles. -/
def plainFile (name : String) (roles : List String) : Json.Node :=
  .object [] [⟨"scenarios", [], .list [] [.object []
    [⟨"name", [], .scalar [] [] (.text name)⟩, ⟨"browsers", [], plainRoles roles⟩] (.ok [])]
    (.ok [])⟩] (.ok [])

theorem fileLevel_plainFile (name : String) (roles : List String) :
    FileLevel (plainFile name roles) := by
  refine ⟨_, Json.Node.isMap_object _ _ _, fun e he _ vs hvs v hv => ?_⟩
  obtain rfl := List.mem_singleton.mp he
  obtain ⟨items, hitems, -, rfl⟩ := hvs
  cases hitems
  obtain rfl := List.mem_singleton.mp hv
  refine ⟨_, Json.Node.isMap_object _ _ _, fun e he hname => ?_⟩
  rcases List.mem_pair.mp he with rfl | rfl
  · have hne : "name" ≠ "browsers" := by decide
    exact absurd (Except.ok.inj hname) hne
  · exact ⟨_, Json.Node.isMap_object _ _ _⟩

/-- A document in YAML that is such a role map. -/
def plainRolesPlace (roles : List String) : Yaml.Place :=
  .root (.map none none (roles.map fun role =>
    (.scalar none none .plain role, .map none none [] true)) true)

theorem read_loses_nothing_viewers :
    FileLevel (plainFile "pair" ["viewer", "viewer2"]) ∧
    (∃ file, readFile (plainFile "pair" ["viewer", "viewer2"]) = .ok file ∧
      IsFile (plainFile "pair" ["viewer", "viewer2"]) file) ∧
    (∃ fault, readRoleMap (plainRoles ["viewer", "viewer2", "viewer"]) = .error fault) ∧
    ∃ fault, readRoleMap (plainRolesPlace ["viewer", "viewer"]) = .error fault := by
  obtain ⟨hnode, -, -, -, hobject, hplace, -⟩ := read_loses_nothing
  have hlevel := fileLevel_plainFile "pair" ["viewer", "viewer2"]
  refine ⟨hlevel, ?file, (hobject _ _ _).2.mpr (.inr (by decide)), ?place⟩
  case file =>
    obtain ⟨file, hfile⟩ : ∃ file, readFile (plainFile "pair" ["viewer", "viewer2"]) = .ok file :=
      ⟨_, rfl⟩
    exact ⟨file, hfile, (hnode _ file hlevel).mp hfile⟩
  case place =>
    have hroles := hplace (plainRolesPlace ["viewer", "viewer"]) none none _
      [("viewer", _), ("viewer", _)] rfl (.cons ⟨rfl, rfl⟩ (.cons ⟨rfl, rfl⟩ .nil))
    exact hroles.2.mpr (.inr (by simp))

end Lineup.Scenario
