import Lineup.Command.Listing
import Lineup.Scenario.Build
import Lineup.Scenario.Preset

/-! The commands: what they do, and what they print. -/

namespace Lineup

open Scenario Property

inductive Command where
  | compile (file : Option Path) (json : Bool)
  | presets (name : Option String) (testFiles : Option Path) (json : Bool)
  | locate
deriving DecidableEq, Repr

/-- Something that writes to the output of the program as it goes, and that may fail. What has
been written by then is not taken back. -/
abbrev Writing (m : Type → Type) := ExceptT Failure (StateT String m)

namespace Writing

variable {m : Type → Type} [Monad m]

/-- A question to the world, which writes nothing. -/
def ask {α : Type} (x : ExceptT Failure m α) : Writing m α := ExceptT.mk (StateT.lift x.run)

def write (text : String) : Writing m Unit := modify (· ++ text)

/-- Writes one piece after the other. -/
def writeAll (texts : List String) : Writing m Unit := texts.forM write

end Writing

namespace Command

open Writing

variable {m : Type → Type} [Monad m]

/-- Prints rosters, as text or in JSON. -/
def print (color json : Bool) (l : List Roster) : Writing m Unit := do
  writeAll (← ask (liftM (rosters color json l)))

/-- Prints the scenarios of a file, or of the one that is found. -/
def printCompiled (w : World m) (color : Bool) (s : Settings) (file : Option Path) (json : Bool) :
    Writing m Unit := do
  match file with
  | some path => print color json (← ask (Scenario.load w path))
  | none =>
    let search ← (Search.ofSettings w s : m _)
    print color json (← ask (search.load w))

/-- Prints one preset, or the names of all. -/
def printPresets (w : World m) (color : Bool) (s : Settings) (name : Option String)
    (testFiles : Option Path) (json : Bool) : Writing m Unit := do
  let dir ← match testFiles with
    | some dir => pure dir
    | none => ((Source.layered .environment (.settings s)).testFilesDir w : m _)
  match name with
  | some name => print color json (← ask (Preset.load w name dir))
  | none => writeAll (← ask (liftM (nameTexts color json Preset.names)))

/-- Prints the path of the scenario file that is found. -/
def printLocated (w : World m) (s : Settings) : Writing m Unit := do
  let search ← (Search.ofSettings w s : m _)
  let path ← ask (search.resolve w)
  write (path.text ++ "\n")

/-- What a command does. Every command needs the settings of the world first. -/
def act (w : World m) (color : Bool) (c : Command) : Writing m Unit := do
  let s ← ask (Settings.load w)
  match c with
  | compile file json => printCompiled w color s file json
  | presets name testFiles json => printPresets w color s name testFiles json
  | locate => printLocated w s

/-- How a command ends, and what it has written by then. -/
def effect (w : World m) (color : Bool) (c : Command) : m (Except Failure Unit × String) :=
  (c.act w color).run.run ""

/-- What a command that does not fail has written. -/
def run (w : World m) (color : Bool) (c : Command) : ExceptT Failure m String := ExceptT.mk do
  let (result, written) ← c.effect w color
  return result.map fun _ => written

end Command
end Lineup
