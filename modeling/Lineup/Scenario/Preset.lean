import Lineup.Roster.Basic

/-! Scenarios that are at hand without a file, all with browsers beside the test. -/

namespace Lineup.Scenario.Preset

open Browser

/-- The recording that is shown instead of a camera, within the directory of test files. -/
def recording : Path := ⟨"video/15sec/rgbHD.y4m"⟩

def beside (kind : Kind) : Spec := .ofSettings [.kind kind, .scope .beside]

def showing (testFiles : Path) : Spec :=
  .ofSettings [.kind .chrome, .scope .beside, .video (testFiles.join recording)]

/-- A scenario of a preset: its name, and the specs that are added in their order. -/
structure Setup where
  name : String
  specs : List (String × Spec)

/-- A scenario with one role. -/
def single (name : String) (spec : Spec) : Setup := ⟨name, [("browser", spec)]⟩

/-- A scenario with a sending and a receiving side of one kind. -/
def sides (name : String) (spec : Spec) : Setup := ⟨name, [("presenter", spec), ("viewer", spec)]⟩

def localChrome : Setup := single "local-chrome" (beside .chrome)

def localFirefox : Setup := single "local-firefox" (beside .firefox)

/-- The names of the presets, as they are listed. -/
def names : List String := [
  "local-chrome-and-firefox",
  "local-chrome",
  "local-firefox",
  "local-presenter-and-viewer",
  "local-presenter-and-viewer-rgb"]

/-- The scenarios of the preset of a name, for a directory of test files. -/
def setups? (name : String) (testFiles : Path) : Option (List Setup) :=
  match name with
  | "local-chrome-and-firefox" => some [localChrome, localFirefox]
  | "local-chrome" => some [localChrome]
  | "local-firefox" => some [localFirefox]
  | "local-presenter-and-viewer" => some [sides "local-presenter-and-viewer" (beside .chrome)]
  | "local-presenter-and-viewer-rgb" =>
    some [sides "local-presenter-and-viewer-rgb" (showing testFiles)]
  | _ => none

def Setup.build (s : Setup) : Except Failure Roster := (Roster.named s.name).addAll s.specs

def byName (name : String) (testFiles : Path) : Except Failure (List Roster) :=
  match setups? name testFiles with
  | some l => l.mapM Setup.build
  | none => .error (.unknownPreset name)

/-- Gives the rosters of a preset, and notes what is added to them. -/
def load {m : Type → Type} [Monad m] (w : World m) (name : String) (testFiles : Path) :
    ExceptT Failure m (List Roster) :=
  match setups? name testFiles with
  | some l => l.mapM fun s => (Roster.named s.name).register w s.specs
  | none => throw (.unknownPreset name)

end Lineup.Scenario.Preset
