import Lineup.Scenario.Build
import Mathlib.Tactic.Common

/-!
Where a scenario file is found that nobody names: in the first directory that
holds one.
-/

namespace Lineup.Scenario

open Property

theorem findResource_eq (w : World Id) (name : Path) (dirs : List Path) :
    (findResource w name dirs : Id (Option Path)) =
      (dirs.map (·.join name)).find? fun p => w.isFile p := by
  induction dirs with
  | nil => rfl
  | cons dir dirs ih =>
    change (if @Eq Bool (w.isFile (dir.join name)) true then some (dir.join name)
      else (findResource w name dirs : Id (Option Path))) = _
    rw [List.map_cons, List.find?_cons, ih]
    generalize w.isFile (dir.join name) = holds
    cases holds with
    | true => rfl
    | false => rfl

theorem Search.run_resolve (w : World Id) (s : Search) :
    (s.resolve w).run = match s.properties.lookup w scenarioFile with
      | some path => .ok ⟨path⟩
      | none =>
        match (s.dirs.map (·.join defaultName)).find? fun p => w.isFile p with
        | some path => .ok path
        | none => .error (.configLoad defaultName
          ("not found in resource directories: " ++ ", ".intercalate (s.dirs.map Path.text))) := by
  rw [← findResource_eq, resolve]
  cases s.properties.lookup w scenarioFile with
  | some path => rfl
  | none => cases findResource w defaultName s.dirs <;> rfl

end Lineup.Scenario
