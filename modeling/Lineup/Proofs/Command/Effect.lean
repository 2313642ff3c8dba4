import Lineup.Command.Outcome
import Lineup.Proofs.Json.Written
import Lineup.Proofs.Scenario.Preset
import Lineup.Proofs.Scenario.Search

/-!
What commands leave behind. Whatever a command asks, it asks before it writes, so its
effect is all of its pieces or a failure with nothing written: `effect_eq`. The pieces
themselves are a plain function of the answers of the world.
-/

namespace Lineup

open Scenario Property Steps

namespace Writing

/-- All pieces are written, or none of them is. -/
def allOrNothing : Except Failure (List String) → Except Failure Unit × String
  | .ok texts => (.ok (), String.join texts)
  | .error f => (.error f, "")

theorem allOrNothing_eq_error_iff {x : Except Failure (List String)} {f : Failure}
    {written : String} :
    allOrNothing x = (.error f, written) ↔ x = .error f ∧ written = "" := by
  cases x <;> simp [allOrNothing, eq_comm]

theorem run_ask_bind {α β : Type} (x : ExceptT Failure Id α) (f : α → Writing Id β)
    (written : String) : (ask x >>= f).run.run written = match x.run with
      | .ok a => (f a).run.run written
      | .error e => (.error e, written) := by
  cases x with
  | ok a => rfl
  | error e => rfl

theorem run_writeAll (texts : List String) (written : String) :
    (writeAll texts : Writing Id Unit).run.run written =
      (.ok (), written ++ String.join texts) := by
  induction texts generalizing written with
  | nil =>
    rw [String.join_nil, String.append_empty]
    rfl
  | cons t ts ih =>
    have hstep : (writeAll (t :: ts) : Writing Id Unit).run.run written =
        (writeAll ts : Writing Id Unit).run.run (written ++ t) := rfl
    rw [hstep, ih, String.join_cons, String.append_assoc]

end Writing

namespace Command

open Writing

/-! ## Printing -/

/-- The document that stands for rosters. -/
def document (rosters : List Roster) : String :=
  (Json.Value.list (rosters.map Roster.value)).pretty 0

/-- The pieces in which rosters are printed. -/
def rosterPieces (color json : Bool) (l : List Roster) : List String :=
  if json then [document l ++ "\n"]
  else l.flatMap (rosterTexts color) ++ [totalLine color l.length]

/-- The pieces in which names are printed. -/
def namePieces (color json : Bool) (names : List String) : List String :=
  if json then [(Json.Value.list (names.map .text)).pretty 0 ++ "\n"]
  else (Paint.heading.apply color "Preset scenarios:" ++ "\n")
    :: names.map fun name => "  " ++ name ++ "\n"

/-- What is a list of values can be printed. -/
theorem jsonTexts_map {α : Type} {f : α → Json.Value} {g : α → Json.Datum}
    (h : ∀ a, g a = (f a).datum) (l : List α) :
    jsonTexts (.list (l.map g)) = .ok [(Json.Value.list (l.map f)).pretty 0 ++ "\n"] := by
  have hdata : l.map g = (l.map f).map Json.Value.datum := by
    rw [List.map_map]
    exact List.map_congr_left fun a _ => h a
  rw [jsonTexts, hdata, Json.Value.pretty_list_datum]
  rfl

theorem rosters_eq (color json : Bool) (l : List Roster) :
    rosters color json l = .ok (rosterPieces color json l) := by
  cases json with
  | true => exact jsonTexts_map (fun _ => rfl) l
  | false => rfl

theorem nameTexts_eq (color json : Bool) (names : List String) :
    nameTexts color json names = .ok (namePieces color json names) := by
  cases json with
  | true => exact jsonTexts_map (f := .text) (fun _ => rfl) names
  | false => rfl

theorem run_ask_writeAll {x : ExceptT Failure Id (List String)} {texts : List String}
    (h : x.run = .ok texts) (written : String) :
    (ask x >>= writeAll).run.run written = (.ok (), written ++ String.join texts) := by
  rw [run_ask_bind, h]
  exact run_writeAll texts written

theorem run_print (color json : Bool) (l : List Roster) (written : String) :
    (print color json l : Writing Id Unit).run.run written =
      (.ok (), written ++ String.join (rosterPieces color json l)) :=
  run_ask_writeAll (rosters_eq color json l) written

/-- A command that asks for rosters and prints them. -/
theorem effect_ask_print (color json : Bool) (x : ExceptT Failure Id (List Roster)) :
    (ask x >>= print color json).run.run "" =
      allOrNothing (x.run.map (rosterPieces color json)) := by
  rw [run_ask_bind]
  cases x.run with
  | error f => rfl
  | ok l =>
    refine (run_print color json l "").trans ?_
    rw [String.empty_append]
    rfl

/-! ## The commands -/

/-- The scenario file that is found without being named. -/
def found (w : World Id) (s : Settings) : Except Failure Path :=
  ((Search.ofSettings w s : Id Search).resolve w).run

/-- Where a scenario file is looked for. -/
def places (w : World Id) (s : Settings) : List Path := s.searchDirs w

/-- The scenario file that a variable names, or else a setting, or else the first one that some
directory holds. A variable that is empty does not count. -/
def candidate (w : World Id) (s : Settings) : Option Path :=
  (((w.variableOf "TEST_CONFIG_JSON").filter (· ≠ "")).map Path.mk).or <|
    s.file.or (((places w s).map (·.join ⟨"test.conf.json"⟩)).find? fun p => w.isFile p)

/-- What is reported where there is no scenario file. -/
def lost (w : World Id) (s : Settings) : Failure :=
  .configLoad ⟨"test.conf.json"⟩
    ("not found in resource directories: " ++ ", ".intercalate ((places w s).map Path.text))

/-- The directory of test files: the one that is given, or the one that a variable holds, or
the one of the settings. A variable that is empty does not count. -/
def mediaDir (w : World Id) (s : Settings) : Option Path → Path
  | some dir => dir
  | none =>
    match (w.variableOf "TEST_FILES").filter (· ≠ "") with
    | some dir => ⟨dir⟩
    | none => s.testFiles

/-- What a command writes piece by piece, or the failure in which it ends. -/
def pieces (w : World Id) (color : Bool) (s : Settings) : Command → Except Failure (List String)
  | compile (some path) json => (Scenario.load w path).run.map (rosterPieces color json)
  | compile none json => do
    let path ← found w s
    (Scenario.load w path).run.map (rosterPieces color json)
  | presets (some name) testFiles json =>
    (Preset.byName name (mediaDir w s testFiles)).map (rosterPieces color json)
  | presets none _ json => .ok (namePieces color json Preset.names)
  | locate => (found w s).map fun path => [path.text ++ "\n"]

theorem effect_printCompiled (w : World Id) (color : Bool) (s : Settings) (file : Option Path)
    (json : Bool) : (printCompiled w color s file json).run.run "" =
      allOrNothing (pieces w color s (compile file json)) := by
  cases file with
  | some path => exact effect_ask_print color json (Scenario.load w path)
  | none =>
    let search : Search := (Search.ofSettings w s : Id Search)
    have hload : (search.load w).run =
        found w s >>= fun path => (Scenario.load w path).run := run_bind _ _
    refine (effect_ask_print color json (search.load w)).trans ?_
    rw [hload, pieces]
    cases found w s <;> rfl

theorem found_eq (w : World Id) (s : Settings) :
    found w s = match candidate w s with
      | some path => .ok path
      | none => .error (lost w s) := by
  have hname : variableName scenarioFile = "TEST_CONFIG_JSON" := rfl
  have hlookup : (Source.layered .environment (.settings s)).lookup w scenarioFile =
      match (w.variableOf (variableName scenarioFile)).filter (· ≠ "") with
      | some path => some path
      | none => s.file.map Path.text := rfl
  have hfound : found w s = _ :=
    Search.run_resolve w ⟨.layered .environment (.settings s), places w s⟩
  rw [hfound, hlookup, hname, candidate]
  cases (w.variableOf "TEST_CONFIG_JSON").filter (· ≠ "") with
  | some path => rfl
  | none => cases s.file <;> rfl

theorem testFilesDir_eq (w : World Id) (s : Settings) :
    (Source.layered .environment (.settings s)).testFilesDir w = mediaDir w s none := by
  have hname : variableName testFiles = "TEST_FILES" := rfl
  have hlookup : (Source.layered .environment (.settings s)).lookup w testFiles =
      match (w.variableOf (variableName testFiles)).filter (· ≠ "") with
      | some dir => some dir
      | none => some s.testFiles.text := rfl
  change (((Source.layered .environment (.settings s)).lookup w testFiles).map Path.mk).getD _ = _
  rw [hlookup, hname, mediaDir]
  cases (w.variableOf "TEST_FILES").filter (· ≠ "") <;> rfl

/-- Without a directory the presets are those for the one that the world names. -/
theorem printPresets_none (w : World Id) (color : Bool) (s : Settings) (name : Option String)
    (json : Bool) : printPresets w color s name none json =
      printPresets w color s name (some (mediaDir w s none)) json := by
  rw [← testFilesDir_eq]
  rfl

theorem effect_printPresets (w : World Id) (color : Bool) (s : Settings) (name : Option String)
    (testFiles : Option Path) (json : Bool) :
    (printPresets w color s name testFiles json).run.run "" =
      allOrNothing (pieces w color s (presets name testFiles json)) := by
  have hgiven : ∀ dir, (printPresets w color s name (some dir) json).run.run "" =
      allOrNothing (pieces w color s (presets name (some dir) json)) := by
    intro dir
    cases name with
    | some name =>
      refine (effect_ask_print color json (Preset.load w name dir)).trans ?_
      rw [Preset.run_load]
      rfl
    | none =>
      refine (run_ask_writeAll (nameTexts_eq color json Preset.names) "").trans ?_
      rw [String.empty_append]
      rfl
  cases testFiles with
  | some dir => exact hgiven dir
  | none =>
    rw [printPresets_none]
    refine (hgiven _).trans ?_
    cases name <;> rfl

theorem effect_printLocated (w : World Id) (s : Settings) (color : Bool) :
    (printLocated w s).run.run "" = allOrNothing (pieces w color s locate) := by
  let search : Search := (Search.ofSettings w s : Id Search)
  have hresolve : (search.resolve w).run = found w s := rfl
  refine (run_ask_bind (search.resolve w) _ "").trans ?_
  rw [hresolve, pieces]
  cases found w s <;> rfl

/-- **All or nothing.** -/
theorem effect_eq (w : World Id) (color : Bool) (c : Command) :
    c.effect w color = allOrNothing ((Settings.load w).run >>= fun s => pieces w color s c) := by
  refine (run_ask_bind (Settings.load w) _ "").trans ?_
  cases (Settings.load w).run with
  | error f => rfl
  | ok s =>
    cases c with
    | compile file json => exact effect_printCompiled w color s file json
    | presets name testFiles json => exact effect_printPresets w color s name testFiles json
    | locate => exact effect_printLocated w s color

section

variable {w : World Id} {color : Bool}

theorem effect_of_load_eq_error {f : Failure} (h : (Settings.load w).run = .error f)
    (c : Command) : c.effect w color = (.error f, "") := by
  rw [effect_eq, h]
  rfl

theorem effect_of_load_eq_ok {s : Settings} (h : (Settings.load w).run = .ok s) (c : Command) :
    c.effect w color = allOrNothing (pieces w color s c) := by
  rw [effect_eq, h]
  rfl

end

end Command
end Lineup
