import Lineup.Command.Arguments

/-! What a call leaves behind: its exit code and what it writes. -/

namespace Lineup

structure Outcome where
  code : Nat := 0
  stdout : String := ""
  stderr : String := ""
deriving DecidableEq, Repr

namespace Call

def versionText : String := "browser-matrix 0.1.0\n"

def usage : String :=
  "Usage: browser-matrix <COMMAND>\n\n"
    ++ "Commands:\n"
    ++ "  compile [--file <FILE>] [--json]                     "
    ++ "Compile a scenario file into its browser matrix\n"
    ++ "  presets [NAME] [--test-files <TEST_FILES>] [--json]  "
    ++ "List built-in preset scenarios, or print one\n"
    ++ "  locate                                               "
    ++ "Print the scenario file that compile would read\n"

variable {m : Type → Type} [Monad m]

/-- Where nothing else is asked for, the log leaves out what matters less than an info, and what
others tell that is not a warning at least. -/
def ownDirectives : String := "browser_matrix=info,warn"

/-- The lines of the log, under the directives of a variable if they can be understood. There is
no line without a note. -/
def logged (w : World m) : List Note → m String
  | [] => return ""
  | notes => do
    let lines ← match ← w.variableOf "RUST_LOG" with
      | some directives => w.lines directives notes
      | none => pure none
    match lines with
    | some lines => return lines
    | none => return (← w.lines ownDirectives notes).getD ""

/-- A failure ends with code 1, and arguments that cannot be read with code 2. The log stands in
front of what is wrong. -/
def outcome (w : World m) (color : Bool) : Call → m Outcome
  | version => return { stdout := versionText }
  | help => return { stdout := usage }
  | misuse => return { code := 2, stderr := usage }
  | run c => do
    let ((result, written), notes) ← (c.effect w.noting color).run []
    let log ← logged w notes
    match result with
    | .ok () => return { stdout := written, stderr := log }
    | .error e =>
      return { code := 1, stdout := written, stderr := log ++ "Error: " ++ e.message ++ "\n" }

/-- Runs a call with the colours that its variables ask for. -/
def perform (w : World m) (terminal : Bool) (arguments : List String) : m Outcome := do
  (ofArguments arguments).outcome w (← Command.colored w terminal)

end Call
end Lineup
