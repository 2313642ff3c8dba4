import Lineup.Browser.Spec
import Lineup.Browser.Expansion
import Lineup.Document.Record
import Lineup.Keyed
import Lineup.Numeral

/-! The schema of a scenario file: a list of named scenarios, each with a map from roles to
browser specs. It is the same in every format. -/

namespace Lineup.Scenario

open Browser Document

variable {ν ε : Type} [Reading ν ε]

/-- One scenario as it is written: its name, and a spec for each role. -/
structure Definition where
  name : String
  roles : Keyed Spec
deriving DecidableEq, Inhabited

/-- A spec as it is written. Its factors may be negative or beyond the limit. -/
structure WrittenSpec where
  kind : Kind := .chrome
  scope : Scope := .beside
  platform : Option Platform := none
  version : Option String := none
  video : Option Path := none
  instances : Option Int64 := none
  perInstance : Option Int64 := none
deriving DecidableEq, Repr

namespace WrittenSpec

/-- A missing or negative number of instances counts as zero. -/
def wantedInstances (w : WrittenSpec) : Int64 := max (w.instances.getD 0) 0

/-- A missing, zero or negative number of browsers per instance counts as one. -/
def wantedPerInstance (w : WrittenSpec) : Int64 := max (w.perInstance.getD 1) 1

def wantedCount (w : WrittenSpec) : Int64 :=
  if w.wantedInstances = 0 then 1
  else Numeral.saturatingMul w.wantedInstances w.wantedPerInstance

/-- The settings that a written spec stands for. The number of browsers per instance counts
beside the number of instances only, so it can be cut at the limit. -/
def settings (w : WrittenSpec) : List Setting :=
  [.kind w.kind, .scope w.scope, .instances w.wantedInstances.toUInt64.toUInt32,
    .perInstance (min w.wantedPerInstance (.ofNat Spec.limit)).toUInt64.toUInt32]
  ++ w.platform.toList.map .platform ++ w.version.toList.map .version
  ++ w.video.toList.map .video

/-- A spec that would stand for too many browsers is refused. -/
def spec (w : WrittenSpec) : Except Cause Spec :=
  if Spec.limit < w.wantedCount.toUInt64.toNat then
    .error (.tooMany w.wantedInstances.toInt w.wantedPerInstance.toInt Spec.limit)
  else .ok (.ofSettings w.settings)

end WrittenSpec

/-- A word of a vocabulary. -/
def readWord {α : Type} [Vocabulary α] (v : ν) : Except ε α :=
  Reading.choice ((Vocabulary.all : List α).map fun a => (Vocabulary.word a, a)) v

def specRecord : Record ν ε WrittenSpec where
  name := "RawBrowserSpec"
  closed := true
  members := [
    ⟨"browserType", fun v => (fun k w => { w with kind := k }) <$> readWord v, false, false⟩,
    ⟨"scope", fun v => (fun s w => { w with scope := s }) <$> readWord v, false, false⟩,
    ⟨"platform", fun v => (fun p w => { w with platform := p }) <$> readOptional readWord v,
      false, true⟩,
    ⟨"version", fun v =>
      (fun s w => { w with version := s }) <$> readOptional (Reading.text "a string") v,
      false, true⟩,
    ⟨"video", fun v => (fun p w => { w with video := p }) <$> readOptional readPath v,
      false, true⟩,
    ⟨"numInstances", fun v =>
      (fun n w => { w with instances := n }) <$> readOptional Reading.integer v, false, true⟩,
    ⟨"browserPerInstance", fun v =>
      (fun n w => { w with perInstance := n }) <$> readOptional Reading.integer v, false, true⟩]

/-- Reads a spec. That it is too large is noticed only when it has been read. -/
def readSpec (report : Cause → ε) (v : ν) : Except ε Spec := do
  let w ← specRecord.read {} v
  w.spec.mapError report

/-- Reads roles in their order. A role may not occur twice. -/
def readRoles : (done : Keyed Spec) → List (Entry ν ε) → Except ε (Keyed Spec)
  | done, [] => .ok done
  | done, e :: rest => do
    let role ← e.name "a string"
    let spec ← readSpec e.atValue e.value
    if done.contains role then .error (e.atValue (.repeatedRole role))
    else readRoles (done.insert role spec) rest

def readRoleMap (v : ν) : Except ε (Keyed Spec) := do
  let es ← Reading.entries "a map of role names to browser specs" v
  let roles ← readRoles ∅ es.entries
  let _ ← es.finish
  .ok roles

def definitionRecord : Record ν ε Definition where
  name := "ScenarioDefinition"
  closed := true
  members := [
    ⟨"name", fun v => (fun s d => { d with name := s }) <$> Reading.text "a string" v,
      true, true⟩,
    ⟨"browsers", fun v => (fun roles d => { d with roles }) <$> readRoleMap v, true, true⟩]

def fileRecord : Record ν ε (List Definition) where
  name := "ScenarioFile"
  closed := true
  members := [
    ⟨"scenarios", fun v =>
      (fun l _ => l) <$> readList (definitionRecord.read ⟨"", ∅⟩) v, false, false⟩]

def readFile (v : ν) : Except ε (List Definition) := fileRecord.read [] v

end Lineup.Scenario
