import Lineup.Roster.Basic
import Lineup.Scenario.Format
import Lineup.Settings.Property

/-! From written scenarios to rosters, and scenario files: which one a run reads, and what it
makes of it. -/

namespace Lineup.Scenario

open Property

variable {m : Type → Type} [Monad m]

/-- Adds the roles in their order under the name of the scenario. -/
def Definition.build (d : Definition) : Except Failure Roster :=
  (Roster.named d.name).addAll d.roles.entries

/-- One roster for each scenario, or the failure of the first one that has none. -/
def buildAll (l : List Definition) : Except Failure (List Roster) := l.mapM Definition.build

/-- Builds a scenario and notes its roles. -/
def Definition.register (w : World m) (d : Definition) : ExceptT Failure m Roster :=
  (Roster.named d.name).register w d.roles.entries

/-- The scenarios of a text in the format of a path. -/
def definitions (path : Path) (text : String) : Except Failure (List Definition) :=
  ((Format.ofPath path).readScenarios text).mapError (.malformedConfig path)

/-- The rosters of a text in the format of a path. -/
def ofText (path : Path) (text : String) : Except Failure (List Roster) := do
  buildAll (← definitions path text)

/-- Reads the rosters of a file, all of them or none. -/
def load (w : World m) (path : Path) : ExceptT Failure m (List Roster) := do
  match ← w.read path with
  | .ok text =>
    let rosters ← (← definitions path text).mapM (Definition.register w)
    w.note (.loaded path rosters.length)
    return rosters
  | .error problem => throw (.configLoad path problem.message)

/-- The first directory that holds a file of this name. -/
def findResource (w : World m) (name : Path) : List Path → m (Option Path)
  | [] => return none
  | dir :: dirs => do
    let candidate := dir.join name
    if ← w.isFile candidate then return some candidate else findResource w name dirs

def defaultName : Path := ⟨"test.conf.json"⟩

/-- Where the scenario file of a run is looked for. -/
structure Search where
  properties : Source
  dirs : List Path

namespace Search

/-- The search of the command line: variables count before settings. -/
def ofSettings (w : World m) (s : Settings) : m Search := do
  return ⟨.layered .environment (.settings s), ← s.searchDirs w⟩

/-- A property may name the file, which is then not looked at. Otherwise the first directory
that holds a file of the default name counts. -/
def resolve (w : World m) (s : Search) : ExceptT Failure m Path := do
  match ← (s.properties.lookup w scenarioFile : m _) with
  | some path =>
    w.note (.named ⟨path⟩)
    return ⟨path⟩
  | none =>
    match ← (findResource w defaultName s.dirs : m _) with
    | some path => return path
    | none =>
      throw (.configLoad defaultName
        ("not found in resource directories: " ++ ", ".intercalate (s.dirs.map Path.text)))

def load (w : World m) (s : Search) : ExceptT Failure m (List Roster) := do
  Scenario.load w (← s.resolve w)

end Search
end Lineup.Scenario
