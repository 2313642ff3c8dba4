import Lineup.Scenario.Build
import Lineup.Proofs.Document.Record
import Lineup.Proofs.Roster.Addition

/-!
The names of scenarios have no part in what becomes of a file. To say so, each
name is exchanged as soon as it is read, before anything can look at it: the
outcome is the same, with the names exchanged.
-/

namespace Lineup.Scenario

open Browser Document Steps

def Definition.rename (f : String → String) (d : Definition) : Definition :=
  { d with name := f d.name }

section

variable {ν ε : Type} [Reading ν ε]

/-! ## The schema in which names are exchanged -/

def nameMemberAs (f : String → String) : Member ν ε Definition :=
  ⟨"name", fun v => (fun s d => { d with name := f s }) <$> Reading.text "a string" v, true, true⟩

/-- A scenario, with `f` applied to its name. -/
def definitionRecordAs (f : String → String) : Record ν ε Definition :=
  let r : Record ν ε Definition := definitionRecord
  { r with members := nameMemberAs f :: r.members.tail }

def scenariosMemberAs (f : String → String) : Member ν ε (List Definition) :=
  ⟨"scenarios", fun v =>
    (fun l _ => l) <$> readList ((definitionRecordAs f).read (.rename f ⟨"", ∅⟩)) v, false, false⟩

def fileRecordAs (f : String → String) : Record ν ε (List Definition) :=
  let r : Record ν ε (List Definition) := fileRecord
  { r with members := [scenariosMemberAs f] }

def readFileAs (f : String → String) (v : ν) : Except ε (List Definition) :=
  (fileRecordAs f).read [] v

/-! ## Reading -/

theorem definitionRecordAs_follows (f : String → String) :
    (definitionRecord : Record ν ε Definition).Follows (.rename f) (definitionRecordAs f) := by
  refine ⟨rfl, rfl, .cons ⟨rfl, rfl, rfl, fun v d => ?name⟩
    (.cons ⟨rfl, rfl, rfl, fun v d => ?browsers⟩ .nil)⟩
  case name =>
    simp only [nameMemberAs]
    cases (Reading.text "a string" v : Except ε String) <;> rfl
  case browsers =>
    dsimp only
    cases (readRoleMap v : Except ε (Keyed Spec)) <;> rfl

theorem readScenarioAs_eq (f : String → String) (v : ν) :
    (definitionRecordAs f).read (.rename f ⟨"", ∅⟩) v =
      (definitionRecord.read ⟨"", ∅⟩ v : Except ε Definition).map (.rename f) :=
  Record.read_follows (definitionRecordAs_follows f) ⟨"", ∅⟩ v

theorem fileRecordAs_follows (f : String → String) :
    (fileRecord : Record ν ε (List Definition)).Follows (List.map (.rename f))
      (fileRecordAs f) := by
  refine ⟨rfl, rfl, .cons ⟨rfl, rfl, rfl, fun v l => ?scenarios⟩ .nil⟩
  case scenarios =>
    simp only [scenariosMemberAs, readList_map (readScenarioAs_eq f)]
    cases (readList (definitionRecord.read ⟨"", ∅⟩) v : Except ε (List Definition)) <;> rfl

theorem readFileAs_eq (f : String → String) (v : ν) :
    readFileAs f v = (readFile v : Except ε (List Definition)).map (List.map (.rename f)) :=
  Record.read_follows (fileRecordAs_follows f) [] v

end

theorem Format.decode_map {α β : Type}
    {read : {ν ε : Type} → [Reading ν ε] → (Cause → ε) → ν → Except ε α}
    {read' : {ν ε : Type} → [Reading ν ε] → (Cause → ε) → ν → Except ε β} {g : α → β}
    (h : ∀ {ν ε : Type} [Reading ν ε] (report : Cause → ε) (v : ν),
      read' report v = (read report v).map g)
    (f : Format) (s : String) : f.decode read' s = (f.decode read s).map g := by
  cases f with
  | json =>
    simp only [Format.decode, Json.decode, h]
    cases read (fun cause => Json.Fault.schema cause none) (Json.ofText s) with
    | error fault => rfl
    | ok a => cases Json.closeText (Json.ofText s) <;> rfl
  | yaml =>
    simp only [Format.decode, Yaml.decode, h]
    cases read (fun cause => Yaml.Fault.schema cause []) (_ : Yaml.Place) with
    | error fault => rfl
    | ok a =>
      simp only [Except.map, bind, Except.bind]
      split <;> rfl
  | toml =>
    simp only [Format.decode, Toml.decode, h]
    cases Toml.ofText? s with
    | none => rfl
    | some v =>
      simp only
      cases read Toml.Fault.schema v <;> rfl

/-! ## Building -/

theorem Definition.build_rename (f : String → String) (d : Definition) :
    (d.rename f).build = d.build.map (Roster.rename f) :=
  Roster.addAll_rename f (Roster.named d.name) d.roles.entries

theorem buildAll_rename (f : String → String) (defs : List Definition) :
    buildAll (defs.map (Definition.rename f)) = (buildAll defs).map (List.map (Roster.rename f)) := by
  rw [buildAll, buildAll, List.mapM_map, ← mapM_map]
  congr 1
  funext d
  exact d.build_rename f

/-- The rosters of a text in which `f` is applied to every name as it is read. -/
def ofTextAs (f : String → String) (path : Path) (text : String) :
    Except Failure (List Roster) := do
  let file ← ((Format.ofPath path).decode (fun _ => readFileAs f) text).mapError
    (.malformedConfig path)
  buildAll file

theorem ofTextAs_eq (f : String → String) (path : Path) (text : String) :
    ofTextAs f path text = (ofText path text).map (List.map (Roster.rename f)) := by
  have hdecode : (Format.ofPath path).decode (fun _ => readFileAs f) text =
      ((Format.ofPath path).readScenarios text).map (List.map (Definition.rename f)) :=
    Format.decode_map (fun _ v => readFileAs_eq f v) _ _
  rw [ofTextAs, ofText, definitions, hdecode]
  cases (Format.ofPath path).readScenarios text with
  | error reason => rfl
  | ok defs => exact buildAll_rename f defs

end Lineup.Scenario
