import Lineup.World.Basic

/-! Colours and styles of text on a terminal. -/

namespace Lineup.Command

inductive Paint where
  | heading | title | faint | mark | total
deriving DecidableEq, Repr

namespace Paint

/-- Bold blue, bold white, dimmed, green and cyan. -/
def code : Paint → String
  | heading => "1;34"
  | title => "1;37"
  | faint => "2"
  | mark => "32"
  | total => "36"

def start (p : Paint) : String := "\x1b[" ++ p.code ++ "m"

def reset : List Char := ['\x1b', '[', '0', 'm']

/-- Where the text itself ends all styles, the style begins again. -/
def restart (again : List Char) : List Char → List Char
  | '\x1b' :: '[' :: '0' :: 'm' :: rest => reset ++ again ++ restart again rest
  | c :: rest => c :: restart again rest
  | [] => []

def apply (color : Bool) (p : Paint) (s : String) : String :=
  if color then
    p.start ++ String.ofList (restart p.start.toList s.toList) ++ String.ofList reset
  else s

end Paint

/-- Whether colours are wanted: a variable may force or forbid them, and otherwise a terminal
gets them. -/
def wantsColor (force forbid allow : Option String) (terminal : Bool) : Bool :=
  if force.any (· ≠ "0") then true
  else if forbid.isSome then false
  else terminal && allow.all (· ≠ "0")

/-- Whether the variables of a world want colours. -/
def colored {m : Type → Type} [Monad m] (w : World m) (terminal : Bool) : m Bool := do
  let force ← w.variableOf "CLICOLOR_FORCE"
  let forbid ← w.variableOf "NO_COLOR"
  let allow ← w.variableOf "CLICOLOR"
  return wantsColor force forbid allow terminal

end Lineup.Command
