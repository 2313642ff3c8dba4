import Lineup.Toml.Answer
import Lineup.Document.Record
import Lineup.Failure
import Lineup.World.Basic

/-! The settings file: where scenario files and test files are looked for. Every setting has a
default of its own. -/

namespace Lineup

open Document

structure Settings where
  file : Option Path := none
  resourceDirs : List Path := [⟨"."⟩, ⟨"tests/resources"⟩]
  testFiles : Path := ⟨"/var/lib/jenkins/test-files"⟩
deriving DecidableEq, Repr, Inhabited

namespace Settings

variable {ν ε : Type} [Reading ν ε]

def scenariosRecord : Record ν ε Settings where
  name := "ScenarioSettings"
  closed := false
  members := [
    ⟨"file", fun v => (fun p s => { s with file := p }) <$> readOptional readPath v, false, true⟩,
    ⟨"resource_dirs", fun v => (fun l s => { s with resourceDirs := l }) <$> readList readPath v,
      false, false⟩]

def mediaRecord : Record ν ε Settings where
  name := "MediaSettings"
  closed := false
  members := [
    ⟨"test_files", fun v => (fun p s => { s with testFiles := p }) <$> readPath v, false, false⟩]

/-- Keys that are not known are left alone here and in both sections. -/
def record : Record ν ε Settings where
  name := "Config"
  closed := false
  members := [
    ⟨"scenarios", fun v =>
      (fun t s => { s with file := t.file, resourceDirs := t.resourceDirs })
        <$> scenariosRecord.read {} v,
      false, false⟩,
    ⟨"media", fun v =>
      (fun t s => { s with testFiles := t.testFiles }) <$> mediaRecord.read {} v, false, false⟩]

def ofText (s : String) : Except Failure Settings :=
  (Toml.decode (fun _ => record.read {}) s).mapError .configParse

variable {m : Type → Type} [Monad m]

/-- Reads settings from a file that has to be there. -/
def loadFrom (w : World m) (path : Path) : ExceptT Failure m Settings := do
  match ← w.read path with
  | .ok text => ofText text
  | .error problem => throw (.configLoad path problem.message)

/-- The directory for the settings of this program. -/
def directory (w : World m) : m (Option Path) := w.configDir "browser-matrix"

def path (w : World m) : m (Option Path) := do
  return (← directory w).map (·.join ⟨"config.toml"⟩)

/-- The settings of the settings file, or the defaults if there is none. -/
def load (w : World m) : ExceptT Failure m Settings := do
  match ← (path w : m _) with
  | some path => if ← w.isThere path then loadFrom w path else return {}
  | none => return {}

/-- Where resources are looked for: last of all in the directory for settings. -/
def searchDirs (w : World m) (s : Settings) : m (List Path) := do
  return s.resourceDirs ++ (← directory w).toList

end Settings
end Lineup
