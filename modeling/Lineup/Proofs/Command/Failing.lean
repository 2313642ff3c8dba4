import Lineup.Proofs.Command.Noting
import Lineup.Proofs.Settings.Loading
import Lineup.World.FileTree

/-!
How commands fail. A command that fails has printed nothing, and the program says why
and ends with code 1. The log may stand in front of that, if it is asked for details
and the command compiles. The settings come first: where they are spoilt every command
fails with what is wrong with them. Otherwise a command fails for reasons of its own,
and these are listed here.
-/

namespace Lineup.Command

open Writing Scenario Settings Steps

/-- Neither a variable nor a setting names a scenario file, and no directory holds one. -/
structure Nowhere (w : World Id) (s : Settings) : Prop where
  noVariable : (w.variableOf "TEST_CONFIG_JSON").filter (· ≠ "") = none
  noSetting : s.file = none
  noFile : ∀ dir ∈ places w s, ¬ w.isFile (dir.join ⟨"test.conf.json"⟩) = true

/-- A command that needs a scenario file and is not told which. -/
inductive Seeks : Command → Prop
  | compile {json : Bool} : Seeks (.compile none json)
  | locate : Seeks .locate

/-- The scenario file that a command reads. -/
inductive Reads (w : World Id) (s : Settings) : Command → Path → Prop
  | given {path : Path} {json : Bool} : Reads w s (.compile (some path) json) path
  | found {path : Path} {json : Bool} : found w s = .ok path → Reads w s (.compile none json) path

/-- The failures of a command for which there are settings. -/
inductive Fails (w : World Id) (s : Settings) : Command → Failure → Prop
  | nowhere {c : Command} : Seeks c → Nowhere w s → Fails w s c (lost w s)
  | unloadable {c : Command} {path : Path} {f : Failure} : Reads w s c path →
      Loads w path (.error f) → Fails w s c f
  | unlisted {name : String} {testFiles : Option Path} {json : Bool} : name ∉ Preset.names →
      Fails w s (.presets (some name) testFiles json) (.unknownPreset name)

/-- The kinds of failure that a command has of its own. -/
inductive Own : Command → Failure → Prop
  | locate {path : Path} {reason : String} : Own .locate (.configLoad path reason)
  | presets {name : String} {testFiles : Option Path} {json : Bool} : name ∉ Preset.names →
      Own (.presets (some name) testFiles json) (.unknownPreset name)
  | load {file : Option Path} {json : Bool} {path : Path} {reason : String} :
      Own (.compile file json) (.configLoad path reason)
  | malformed {file : Option Path} {json : Bool} {path : Path} {reason : String} :
      Own (.compile file json) (.malformedConfig path reason)
  | clash {file : Option Path} {json : Bool} {id : String} :
      Own (.compile file json) (.duplicateIdentity id)

/-- What goes wrong only elsewhere: in a single roster, in a table of handlers, or with values that
cannot be printed. -/
inductive Foreign : Failure → Prop
  | notFound {id : String} : Foreign (.notFound id)
  | replicationLimit {id : String} {count limit : Nat} : Foreign (.replicationLimit id count limit)
  | invalidHandlerPath {path : String} : Foreign (.invalidHandlerPath path)
  | duplicateHandlerPath {path : String} : Foreign (.duplicateHandlerPath path)
  | json {reason : String} : Foreign (.json reason)

/-! ## What a command fails with -/

theorem candidate_eq_none_iff {w : World Id} {s : Settings} :
    candidate w s = none ↔ Nowhere w s := by
  rw [candidate, Option.or_eq_none_iff, Option.or_eq_none_iff, Option.map_eq_none_iff,
    List.find?_eq_none, List.forall_mem_map]
  constructor
  · rintro ⟨hvariable, hsetting, hfile⟩
    exact ⟨hvariable, hsetting, hfile⟩
  · rintro ⟨hvariable, hsetting, hfile⟩
    exact ⟨hvariable, hsetting, hfile⟩

theorem found_eq_error_iff {w : World Id} {s : Settings} {f : Failure} :
    found w s = .error f ↔ Nowhere w s ∧ f = lost w s := by
  rw [found_eq, ← candidate_eq_none_iff]
  cases candidate w s with
  | some path => simp
  | none => simp [eq_comm]

theorem load_eq_error_iff {w : World Id} {path : Path} {f : Failure} :
    (Scenario.load w path).run = .error f ↔ Loads w path (.error f) := by
  constructor
  · intro h
    rw [← h]
    exact loads_load w path
  · exact load_eq_of_loads

theorem pieces_eq_error_iff {w : World Id} {color : Bool} {s : Settings} {c : Command}
    {f : Failure} : pieces w color s c = .error f ↔ Fails w s c f := by
  constructor
  · intro h
    match c with
    | compile (some path) json =>
      exact .unloadable .given (load_eq_error_iff.mp (map_eq_error_iff.mp h))
    | compile none json =>
      rcases bind_eq_error_iff.mp h with h | ⟨path, hpath, h⟩
      · obtain ⟨hnowhere, rfl⟩ := found_eq_error_iff.mp h
        exact .nowhere .compile hnowhere
      · exact .unloadable (.found hpath) (load_eq_error_iff.mp (map_eq_error_iff.mp h))
    | presets (some name) _ _ =>
      obtain ⟨hname, rfl⟩ := Preset.byName_eq_error_iff.mp (map_eq_error_iff.mp h)
      exact .unlisted hname
    | presets none _ _ => cases h
    | locate =>
      obtain ⟨hnowhere, rfl⟩ := found_eq_error_iff.mp (map_eq_error_iff.mp h)
      exact .nowhere .locate hnowhere
  · intro h
    cases h with
    | nowhere hseeks hnowhere =>
      have hfound := found_eq_error_iff.mpr ⟨hnowhere, rfl⟩
      cases hseeks with
      | compile => exact bind_eq_error_iff.mpr (.inl hfound)
      | locate => exact map_eq_error_iff.mpr hfound
    | unloadable hreads hloads =>
      have hload := load_eq_error_iff.mpr hloads
      cases hreads with
      | given => exact map_eq_error_iff.mpr hload
      | found hfound =>
        exact bind_eq_error_iff.mpr (.inr ⟨_, hfound, map_eq_error_iff.mpr hload⟩)
    | unlisted hname => exact map_eq_error_iff.mpr (Preset.byName_eq_error_iff.mpr ⟨hname, rfl⟩)

theorem Fails.own {w : World Id} {s : Settings} {c : Command} {f : Failure}
    (h : Fails w s c f) : Own c f := by
  cases h with
  | nowhere hseeks =>
    cases hseeks with
    | compile => exact .load
    | locate => exact .locate
  | unloadable hreads hloads =>
    cases hreads <;> cases hloads
    case given.unreadable => exact .load
    case given.malformed => exact .malformed
    case given.clash => exact .clash
    case found.unreadable => exact .load
    case found.malformed => exact .malformed
    case found.clash => exact .clash
  | unlisted hname => exact .presets hname

theorem Own.not_foreign {c : Command} {f : Failure} (h : Own c f) : ¬ Foreign f := by
  intro hforeign
  cases hforeign <;> cases h

theorem not_foreign_of_spoilt {w : World Id} {f : Failure} (h : Spoilt w f) : ¬ Foreign f := by
  intro hforeign
  cases hforeign <;> cases h

/-- A command fails because of the settings or, if there are settings, for reasons of its own. -/
theorem effect_eq_error_iff {w : World Id} {color : Bool} {c : Command} {f : Failure}
    {written : String} : c.effect w color = (.error f, written) ↔
      (Spoilt w f ∨ ∃ s, (Settings.load w).run = .ok s ∧ Fails w s c f) ∧ written = "" := by
  rw [effect_eq, allOrNothing_eq_error_iff, bind_eq_error_iff]
  refine and_congr_left' (or_congr Settings.load_eq_error_iff (exists_congr fun s => ?_))
  exact and_congr_right' pieces_eq_error_iff

/-! ## What the program leaves behind -/

/-- Under the directives of the program itself the log leaves out what matters little. -/
def Quiet (w : World Id) : Prop :=
  ∀ notes : List Note, (∀ n ∈ notes, n.level = .debug) →
    w.lines Call.ownDirectives notes = some ""

theorem logged_of_quiet {w : World Id} (hw : Quiet w) (h : w.variableOf "RUST_LOG" = none)
    {notes : List Note} (hnotes : ∀ n ∈ notes, n.level = .debug) :
    (Call.logged w notes).run = "" := by
  cases notes with
  | nil => rfl
  | cons n notes =>
    have hlines : w.lines Call.ownDirectives (n :: notes) = some "" := hw _ hnotes
    simp only [Call.logged, h]
    exact congrArg (Option.getD · "") hlines

theorem outcome_eq {w : World Id} {color : Bool} {c : Command} {told : List Note}
    (h : (c.effect w.noting color).run [] = (c.effect w color, told)) :
    ((Call.run c).outcome w color : Id Outcome) = match c.effect w color with
      | (.ok (), written) => { stdout := written, stderr := (Call.logged w told).run }
      | (.error f, written) =>
        { code := 1, stdout := written,
          stderr := (Call.logged w told).run ++ "Error: " ++ f.message ++ "\n" } := by
  rw [Call.outcome, h]
  generalize c.effect w color = effect
  obtain ⟨result, written⟩ := effect
  cases result with
  | ok => rfl
  | error f => rfl

theorem perform_of_run {c : Command} {arguments : List String}
    (h : Call.ofArguments arguments = .run c) (w : World Id) (terminal : Bool) :
    Call.perform w terminal arguments = (Call.run c).outcome w (colored w terminal) := by
  rw [← h]
  rfl

/-- A failure, and the notes that the log may tell in front of it. -/
theorem outcome_of_error {w : World Id} {color : Bool} {c : Command} {f : Failure}
    (h : c.effect w color = (.error f, "")) :
    ∃ notes : List Note, (∀ n ∈ notes, n.level = .debug) ∧ (¬ Compiles c → notes = []) ∧
      (Call.run c).outcome w color =
        { code := 1, stdout := "",
          stderr := (Call.logged w notes).run ++ "Error: " ++ f.message ++ "\n" } := by
  obtain ⟨told, htold, hrun⟩ := tells_effect w color c
  have hminor : ∀ n ∈ told, Minor n ∧ Compiles c := by
    intro n hn
    refine (htold n hn).resolve_right fun hok => ?_
    rw [h] at hok
    cases hok
  refine ⟨told, fun n hn => (hminor n hn).1, fun hc => ?_, ?_⟩
  · exact List.eq_nil_iff_forall_not_mem.mpr fun n hn => hc (hminor n hn).2
  · rw [outcome_eq (hrun []), h]
    rfl

/-- **Failing.** A failing command prints nothing, and the program ends with code 1 and says
why. The log stands in front of that only with details of a command that compiles. Spoilt
settings fail every command with what is wrong with them, and where there are settings a
command fails exactly for the reasons that are listed, all of them its own. -/
theorem failing_prints_nothing (w : World Id) (color : Bool) (c : Command) :
    (∀ f written, c.effect w color = (.error f, written) → written = "" ∧ ¬ Foreign f ∧
      (∃ notes : List Note, (∀ n ∈ notes, n.level = .debug) ∧ (¬ Compiles c → notes = []) ∧
        (Call.run c).outcome w color =
          { code := 1, stdout := "",
            stderr := (Call.logged w notes).run ++ "Error: " ++ f.message ++ "\n" }) ∧
      (¬ Compiles c ∨ w.variableOf "RUST_LOG" = none ∧ Quiet w →
        (Call.run c).outcome w color =
          { code := 1, stdout := "", stderr := "Error: " ++ f.message ++ "\n" })) ∧
    (∀ written, c.effect w color = (.ok (), written) →
      ((Call.run c).outcome w color).code = 0 ∧
      ((Call.run c).outcome w color).stdout = written) ∧
    (∀ terminal arguments, Call.ofArguments arguments = .run c →
      Call.perform w terminal arguments = (Call.run c).outcome w (colored w terminal)) ∧
    (∀ f, ((Settings.load w).run = .error f ↔ Spoilt w f) ∧
      (Spoilt w f → c.effect w color = (.error f, ""))) ∧
    ∀ s, (Settings.load w).run = .ok s → ∀ f,
      (c.effect w color = (.error f, "") ↔ Fails w s c f) ∧ (Fails w s c f → Own c f) := by
  refine ⟨fun f written h => ?failing, fun written h => ?done,
    fun terminal arguments h => ?performed,
    fun f => ⟨Settings.load_eq_error_iff, fun h => ?spoilt⟩, fun s hs f => ⟨?settled, Fails.own⟩⟩
  case failing =>
    obtain ⟨hwhy, rfl⟩ := effect_eq_error_iff.mp h
    obtain ⟨notes, hdebug, hnotes, houtcome⟩ := outcome_of_error h
    refine ⟨rfl, ?own, ⟨notes, hdebug, hnotes, houtcome⟩, ?quiet⟩
    case own =>
      rcases hwhy with hspoilt | ⟨s, -, hfails⟩
      · exact not_foreign_of_spoilt hspoilt
      · exact hfails.own.not_foreign
    case quiet =>
      intro hquiet
      have hlogged : (Call.logged w notes).run = "" := by
        rcases hquiet with hc | ⟨hvariable, hw⟩
        · rw [hnotes hc]
          rfl
        · exact logged_of_quiet hw hvariable hdebug
      rw [houtcome, hlogged, String.empty_append]
  case done =>
    obtain ⟨told, -, hrun⟩ := tells_effect w color c
    rw [outcome_eq (hrun []), h]
    exact ⟨rfl, rfl⟩
  case performed => exact perform_of_run h w terminal
  case spoilt => exact effect_eq_error_iff.mpr ⟨.inl h, rfl⟩
  case settled =>
    rw [effect_eq_error_iff]
    constructor
    · rintro ⟨hspoilt | ⟨s', hs', hfails⟩, -⟩
      · cases hs.symm.trans (Settings.load_eq_error_iff.mpr hspoilt)
      · cases hs.symm.trans hs'
        exact hfails
    · exact fun hfails => ⟨.inr ⟨s, hs, hfails⟩, rfl⟩

/-- A line of a log that is written without colours, all at one moment. -/
def logLine (n : Note) : String :=
  let level := n.level.word
  let fields := n.fields.map fun field => " " ++ field.1 ++ "=" ++ field.2
  "2026-05-01T12:00:00.000000Z " ++ "".pushn ' ' (5 - level.length) ++ level ++ " " ++ n.place
    ++ ": " ++ n.message ++ String.join fields ++ "\n"

/-- A world without files that has such a log. Of all directives it understands those for every
detail, and those of the program itself. -/
def loggingWorld (given : List (String × String)) : World Id :=
  { FileTree.world [] given with
    lines := fun directives notes =>
      if directives = "debug" then some (String.join (notes.map logLine))
      else if directives = Call.ownDirectives then
        some (String.join ((notes.filter (·.level ≠ .debug)).map logLine))
      else none }

theorem quiet_loggingWorld (given : List (String × String)) :
    Quiet (loggingWorld given) := by
  intro notes hnotes
  have hfilter : notes.filter (·.level ≠ .debug) = [] := by
    simpa [List.filter_eq_nil_iff] using hnotes
  change some (String.join ((notes.filter (·.level ≠ .debug)).map logLine)) = some ""
  rw [hfilter]
  rfl

/-- A world where a variable names a scenario file that is not there. -/
def missingWorld : World Id := loggingWorld [("TEST_CONFIG_JSON", "missing.json")]

/-- The same world with a variable that asks the log for details. -/
def detailedWorld : World Id :=
  loggingWorld [("TEST_CONFIG_JSON", "missing.json"), ("RUST_LOG", "debug"), ("NO_COLOR", "1")]

theorem effect_missingWorld : (compile none false).effect missingWorld false =
    (.error (.configLoad ⟨"missing.json"⟩ "No such file or directory (os error 2)"), "") := by
  change @Eq (Except Failure Unit × String) _ _
  decide +kernel

theorem failing_prints_nothing_missing : missingWorld.variableOf "RUST_LOG" = none ∧
    Quiet missingWorld ∧ (Call.run (compile none false)).outcome missingWorld false =
      { code := 1, stdout := "", stderr :=
          "Error: Failed to read 'missing.json': No such file or directory (os error 2)\n" } := by
  have hquiet : Quiet missingWorld := quiet_loggingWorld _
  have hfailing := (failing_prints_nothing missingWorld false (compile none false)).1 _ _
    effect_missingWorld
  exact ⟨rfl, hquiet, hfailing.2.2.2 (.inr ⟨rfl, hquiet⟩)⟩

/-- **Details.** A log that is asked for details tells them in front of a failure. And a command
with an empty path fails, but the arguments that would stand for it are refused. -/
theorem failing_may_log :
    ((compile none false).effect detailedWorld false =
      (.error (.configLoad ⟨"missing.json"⟩ "No such file or directory (os error 2)"), "") ∧
    Call.perform detailedWorld false ["compile"] =
      { code := 1, stdout := "", stderr :=
          "2026-05-01T12:00:00.000000Z DEBUG browser_matrix::scenario::source: Using scenario file "
          ++ "from test.config.json path=missing.json\n"
          ++ "Error: Failed to read 'missing.json': No such file or directory (os error 2)\n" }) ∧
    (compile (some ⟨""⟩) false).effect missingWorld false =
      (.error (.configLoad ⟨""⟩ "No such file or directory (os error 2)"), "") ∧
    (Call.perform missingWorld false ["compile", "--file", ""]).code = 2 := by
  refine ⟨⟨?detailed, ?logged⟩, ?empty, ?misuse⟩
  case detailed =>
    change @Eq (Except Failure Unit × String) _ _
    decide +kernel
  case logged =>
    change @Eq Outcome _ _
    decide +kernel
  case empty =>
    change @Eq (Except Failure Unit × String) _ _
    decide +kernel
  case misuse => decide +kernel

end Lineup.Command
