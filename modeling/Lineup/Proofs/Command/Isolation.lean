import Lineup.Proofs.Command.Effect
import Lineup.Proofs.Scenario.Loading
import Lineup.Proofs.Scenario.Preset
import Lineup.World.FileTree

/-!
What commands take from the world. A file that is given is read as it is, whatever else
there may be, and a preset is the same in every world. The one that shows a recording is
no more than told where the recordings are.
-/

namespace Lineup.Command

open Writing Scenario Property

/-- What is printed, for each choice of colours: rosters, if there are any, or names. -/
inductive Prints (json : Bool) : (Bool → Except Failure (List String)) → Prop
  | rosters (result : Except Failure (List Roster)) :
      Prints json fun color => result.map (rosterPieces color json)
  | names (names : List String) : Prints json fun color => .ok (namePieces color json names)

/-- Effects that are the same but for the colours that are asked for. -/
def SameButColors (json color color' : Bool) (effect effect' : Except Failure Unit × String) :
    Prop :=
  ∃ texts, Prints json texts ∧ effect = allOrNothing (texts color) ∧
    effect' = allOrNothing (texts color')

theorem SameButColors.result {json color color' : Bool}
    {effect effect' : Except Failure Unit × String}
    (h : SameButColors json color color' effect effect') : effect.1 = effect'.1 := by
  obtain ⟨texts, hprints, rfl, rfl⟩ := h
  cases hprints with
  | rosters result => cases result <;> rfl
  | names names => rfl

/-- There are no colours in JSON. -/
theorem SameButColors.eq {json color color' : Bool} {effect effect' : Except Failure Unit × String}
    (h : SameButColors json color color' effect effect') (hcolor : json = true ∨ color = color') :
    effect = effect' := by
  obtain ⟨texts, hprints, rfl, rfl⟩ := h
  rcases hcolor with rfl | rfl
  · cases hprints <;> rfl
  · rfl

end Lineup.Command
