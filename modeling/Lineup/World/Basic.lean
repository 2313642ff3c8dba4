import Lineup.Path
import Lineup.Text.Quoted

/-! What a run can ask of the world around it: variables, directories and files. Nothing of
this is ever changed, and all that a run leaves in the world are notes in a log. -/

namespace Lineup

/-- Why a file cannot be read as text. -/
inductive ReadProblem where
  | noSuchFile
  | notDirectory
  | isDirectory
  | notText
  | nulInPath
  | other (reason : String)
deriving DecidableEq, Repr

def ReadProblem.message : ReadProblem → String
  | noSuchFile => "No such file or directory (os error 2)"
  | notDirectory => "Not a directory (os error 20)"
  | isDirectory => "Is a directory (os error 21)"
  | notText => "stream did not contain valid UTF-8"
  | nulInPath => "file name contained an unexpected NUL byte"
  | other reason => reason

/-- How much a note matters. -/
inductive Level where
  | debug
  | info
deriving DecidableEq, Repr

def Level.word : Level → String
  | debug => "DEBUG"
  | info => "INFO"

/-- What a run tells the log: a property has named the scenario file, a spec has been added to
the roster of a scenario, a scenario file has been loaded. -/
inductive Note where
  | named (path : Path)
  | registered (scenario : Option String) (base : String) (count : Nat)
  | loaded (path : Path) (scenarios : Nat)
deriving DecidableEq, Repr

namespace Note

def level : Note → Level
  | named _ => .debug
  | registered .. => .debug
  | loaded .. => .info

/-- The part of the program that a note comes from. -/
def place : Note → String
  | named _ => "browser_matrix::scenario::source"
  | registered .. => "browser_matrix::scenario::registry"
  | loaded .. => "browser_matrix::scenario::source"

def message : Note → String
  | named _ => "Using scenario file from test.config.json"
  | registered .. => "Registered browsers"
  | loaded .. => "Loaded scenario file"

/-- What a note tells beside its message. A path or a number is written as it is, and a scenario
without a name as a dash. -/
def fields : Note → List (String × String)
  | named path => [("path", path.text)]
  | registered scenario base count =>
    [("scenario", Text.quoted (scenario.getD "-")), ("base_id", Text.quoted base),
      ("count", count.repr)]
  | loaded path scenarios => [("path", path.text), ("scenarios", scenarios.repr)]

end Note

/-- The questions, answered in a monad: the plain answers of a given world, or those of the
system that the program runs on. The directory for the settings of a program is what the
platform says it is, and the lines of a log are what the directives for it make of some notes,
or nothing if these directives cannot be understood. -/
structure World (m : Type → Type) where
  variableOf : String → m (Option String)
  configDir : (program : String) → m (Option Path)
  read : Path → m (Except ReadProblem String)
  isFile : Path → m Bool
  isThere : Path → m Bool
  note : Note → m Unit
  lines : (directives : String) → List Note → m (Option String)

namespace World

variable {m : Type → Type} [Monad m]

/-- The same world, in which notes are kept in their order. -/
def noting (w : World m) : World (StateT (List Note) m) where
  variableOf name := StateT.lift (w.variableOf name)
  configDir program := StateT.lift (w.configDir program)
  read p := StateT.lift (w.read p)
  isFile p := StateT.lift (w.isFile p)
  isThere p := StateT.lift (w.isThere p)
  note n := modify (· ++ [n])
  lines directives notes := StateT.lift (w.lines directives notes)

/-- The directory for the settings of a program where variables decide: below the directory for
all settings, which one may name by an absolute path, or else below the home directory. -/
def configDirBy (variableOf : String → m (Option String)) (program : String) :
    m (Option Path) := do
  let named := (← variableOf "XDG_CONFIG_HOME").map Path.mk
  match named.filter Path.isAbsolute with
  | some base => return some (base.join ⟨program⟩)
  | none =>
    let home := (← variableOf "HOME").filter (· ≠ "")
    return home.map fun home => ((Path.mk home).join ⟨".config"⟩).join ⟨program⟩

end World
end Lineup
