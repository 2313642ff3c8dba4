import Lineup.Scenario.Build
import Lineup.Proofs.Roster.Run
import Lineup.Proofs.Scenario.Reading
import Lineup.Proofs.Scenario.Naming

/-!
Loading a scenario file gives all of its rosters or a failure. There are four
outcomes, and the file, its text and the first scenario that cannot be built
decide among them.
-/

namespace Lineup.Scenario

open Browser Steps

/-- A roster is what a scenario is built into. -/
structure Definition.Makes (d : Definition) (r : Roster) : Prop where
  build : d.build = .ok r
  name : r.name = some d.name
  size : r.size = (d.roles.values.map Spec.count).sum

theorem Definition.accounted_of_build {d : Definition} {r : Roster} (h : d.build = .ok r) :
    Roster.Accounted r d.roles.entries :=
  @Roster.accounted_of_addAll (some d.name) r d.roles.entries h

theorem Definition.makes_of_build {d : Definition} {r : Roster} (h : d.build = .ok r) :
    d.Makes r := by
  constructor
  case build => exact h
  case name => exact @Roster.name_of_addAll (some d.name) r d.roles.entries h
  case size =>
    rw [Keyed.values, List.map_map]
    exact (Definition.accounted_of_build h).size_eq

theorem Definition.build_eq_error {d : Definition} {f : Failure} (hd : d.Bounded)
    (h : d.build = .error f) : ∃ id, f = .duplicateIdentity id :=
  Roster.addAll_eq_error hd h

/-- The outcomes of loading a file. -/
inductive Loads (w : World Id) (path : Path) : Except Failure (List Roster) → Prop
  | unreadable {problem : ReadProblem} : w.read path = .error problem →
      Loads w path (.error (.configLoad path problem.message))
  | malformed {text reason : String} : w.read path = .ok text →
      (Format.ofPath path).readScenarios text = .error reason →
      Loads w path (.error (.malformedConfig path reason))
  | clash {text id : String} {before after : List Definition} {d : Definition} :
      w.read path = .ok text →
      (Format.ofPath path).readScenarios text = .ok (before ++ d :: after) →
      (∀ d' ∈ before, ∃ r, d'.Makes r) →
      d.build = .error (.duplicateIdentity id) →
      Loads w path (.error (.duplicateIdentity id))
  | loaded {text : String} {defs : List Definition} {rosters : List Roster} :
      w.read path = .ok text →
      (Format.ofPath path).readScenarios text = .ok defs →
      List.Forall₂ Definition.Makes defs rosters →
      Loads w path (.ok rosters)

theorem buildAll_eq_ok_iff {defs : List Definition} {rosters : List Roster} :
    buildAll defs = .ok rosters ↔ List.Forall₂ Definition.Makes defs rosters := by
  rw [buildAll, mapM_eq_ok_iff]
  constructor
  · exact fun h => h.imp fun _ _ => Definition.makes_of_build
  · exact fun h => h.imp fun _ _ => Definition.Makes.build

theorem ofText_of_error {path : Path} {text reason : String}
    (h : (Format.ofPath path).readScenarios text = .error reason) :
    ofText path text = .error (.malformedConfig path reason) := by
  rw [ofText, definitions, h]
  rfl

theorem ofText_of_ok {path : Path} {text : String} {defs : List Definition}
    (h : (Format.ofPath path).readScenarios text = .ok defs) : ofText path text = buildAll defs := by
  rw [ofText, definitions, h]
  rfl

theorem Definition.run_register (w : World Id) (d : Definition) :
    (d.register w).run = d.build := Roster.run_register w _ _

/-- What is noted while a file is loaded has no part in what comes of it. -/
theorem run_load (w : World Id) (path : Path) :
    (load w path).run = match w.read path with
      | .ok text => ofText path text
      | .error problem => .error (.configLoad path problem.message) := by
  change ExceptT.run (match w.read path with
    | .ok text => do
      let defs ← (liftM (definitions path text) : ExceptT Failure Id (List Definition))
      let rosters ← defs.mapM (Definition.register w)
      w.note (.loaded path rosters.length)
      return rosters
    | .error problem => throw (.configLoad path problem.message)) = _
  cases w.read path with
  | error problem => rfl
  | ok text =>
    change _ = (definitions path text >>= buildAll)
    dsimp only
    cases definitions path text with
    | error f => rfl
    | ok defs =>
      refine (run_bind _ _).trans ?_
      change ExceptT.run (defs.mapM (Definition.register w) >>= _) = buildAll defs
      rw [run_bind, run_mapM (Definition.run_register w), buildAll]
      cases defs.mapM Definition.build <;> rfl

theorem load_eq_of_loads {w : World Id} {path : Path} {result : Except Failure (List Roster)}
    (h : Loads w path result) : (load w path).run = result := by
  rw [run_load]
  cases h with
  | unreadable hread => rw [hread]
  | malformed hread hparse =>
    rw [hread]
    exact ofText_of_error hparse
  | clash hread hparse hbefore hd =>
    rw [hread]
    refine (ofText_of_ok hparse).trans (mapM_eq_error_iff.mpr ⟨_, _, _, rfl, fun d' hd' => ?_, hd⟩)
    obtain ⟨r, hr⟩ := hbefore d' hd'
    exact ⟨r, hr.build⟩
  | loaded hread hparse hmakes =>
    rw [hread]
    exact (ofText_of_ok hparse).trans (buildAll_eq_ok_iff.mpr hmakes)

theorem loads_load (w : World Id) (path : Path) : Loads w path (load w path).run := by
  rw [run_load]
  cases hread : w.read path with
  | error problem => exact .unreadable hread
  | ok text =>
    dsimp only
    cases hparse : (Format.ofPath path).readScenarios text with
    | error reason =>
      rw [ofText_of_error hparse]
      exact .malformed hread hparse
    | ok defs =>
      rw [ofText_of_ok hparse]
      cases hbuild : buildAll defs with
      | ok rosters => exact .loaded hread hparse (buildAll_eq_ok_iff.mp hbuild)
      | error f =>
        obtain ⟨before, d, after, rfl, hbefore, hd⟩ := mapM_eq_error_iff.mp hbuild
        have hbounded : d.Bounded := readScenarios_bounded hparse d (by simp)
        obtain ⟨id, rfl⟩ := Definition.build_eq_error hbounded hd
        refine .clash hread hparse (fun d' hd' => ?_) hd
        obtain ⟨r, hr⟩ := hbefore d' hd'
        exact ⟨r, Definition.makes_of_build hr⟩

/-- **Loading.** Each file has one outcome, and if names are exchanged as they are read, it is
the same outcome under these names. -/
theorem load_eq_iff_loads (w : World Id) (path : Path) :
    (∀ result, (load w path).run = result ↔ Loads w path result) ∧
    ∀ (f : String → String) (text : String),
      ofTextAs f path text = (ofText path text).map (List.map (Roster.rename f)) := by
  refine ⟨fun result => ⟨?_, load_eq_of_loads⟩, fun f text => ofTextAs_eq f path text⟩
  rintro rfl
  exact loads_load w path

-- Scenarios may share a name, and it may be empty.
example :
    Format.json.readScenarios ("\x7b\"scenarios\": [\x7b\"name\": \"\", \"browsers\": \x7b\x7d\x7d," ++
      "\x7b\"name\": \"\", \"browsers\": \x7b\x7d\x7d]\x7d") = .ok [⟨"", ∅⟩, ⟨"", ∅⟩] := by
  decide +kernel

end Lineup.Scenario
