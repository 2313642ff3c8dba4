import Lineup.Command.Paint
import Lineup.Roster.Written

/-! What commands print about rosters, in the pieces in which it is written. -/

namespace Lineup.Command

open Browser

def details (b : Instance) : String :=
  b.kind.word ++ " " ++ b.scope.word ++ Instance.part " version=" b.version ""
    ++ Instance.part " platform=" (b.platform.map Platform.word) ""
    ++ Instance.part " video=" (b.video.map Path.text) ""

/-- Fills a text up with blanks to a number of characters. -/
def padded (width : Nat) (s : String) : String := s.pushn ' ' (width - s.length)

def browserLine (color : Bool) (b : Instance) : String :=
  "  " ++ Paint.mark.apply color "•" ++ " " ++ padded 16 b.id ++ " " ++ details b ++ "\n"

/-- The name, the summary and a line for each browser. -/
def rosterTexts (color : Bool) (r : Roster) : List String :=
  ["\n" ++ Paint.heading.apply color "Scenario:" ++ " "
      ++ Paint.title.apply color (r.name.getD "(unnamed)") ++ "\n",
    "  " ++ Paint.faint.apply color r.summary ++ "\n"]
  ++ r.toList.map (browserLine color)

def totalLine (color : Bool) (total : Nat) : String :=
  "\n" ++ Paint.total.apply color "Total:" ++ " " ++ total.repr ++ " scenario(s)\n"

/-- A document and a new line, in one piece. -/
def jsonTexts (d : Json.Datum) : Except Failure (List String) := do
  let text ← d.pretty.mapError .json
  return [text ++ "\n"]

def rosters (color json : Bool) (l : List Roster) : Except Failure (List String) :=
  if json then jsonTexts (.list (l.map fun r => r.value.datum))
  else return l.flatMap (rosterTexts color) ++ [totalLine color l.length]

def nameTexts (color json : Bool) (names : List String) : Except Failure (List String) :=
  if json then jsonTexts (.list (names.map .text))
  else return (Paint.heading.apply color "Preset scenarios:" ++ "\n")
    :: names.map fun name => "  " ++ name ++ "\n"

end Lineup.Command
