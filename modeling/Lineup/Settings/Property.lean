import Lineup.Settings.Basic
import Lineup.Text.Upper
import Lineup.Keyed

/-! Properties of a run, looked up in layers. -/

namespace Lineup.Property

/-- The property that names a scenario file. -/
def scenarioFile : String := "test.config.json"

/-- The property that names the directory of test files. -/
def testFiles : String := "test.files"

/-- The variable that holds a property: dots become underscores, all in upper case. -/
def variableName (key : String) : String :=
  Text.upper (String.ofList (key.toList.map fun c => if c = '.' then '_' else c))

/-- Where properties come from. The first of two layers wins. -/
inductive Source where
  | environment
  | map (values : Keyed String)
  | settings (s : Settings)
  | layered (first second : Source)

def Source.empty : Source := map ∅

/-- Layers from left to right, each in front of all behind it. -/
def Source.ofList : List Source → Source
  | [] => empty
  | [s] => s
  | s :: rest => layered s (ofList rest)

variable {m : Type → Type} [Monad m]

/-- A variable that is empty counts as not set, other than a value that is held. -/
def Source.lookup (w : World m) (key : String) : Source → m (Option String)
  | environment => do return (← w.variableOf (variableName key)).filter (· ≠ "")
  | map values => return values.find? key
  | settings s =>
    return if key = scenarioFile then s.file.map Path.text
      else if key = testFiles then some s.testFiles.text
      else none
  | layered first second => do
    match ← first.lookup w key with
    | some value => return some value
    | none => second.lookup w key

def Source.testFilesDir (w : World m) (s : Source) : m Path := do
  return ((← s.lookup w testFiles).map Path.mk).getD ({} : Settings).testFiles

end Lineup.Property
