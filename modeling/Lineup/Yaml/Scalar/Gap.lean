import Lineup.Yaml.Cursor

/-! The blanks and line breaks between two words of a scalar that runs over several lines.
One line break counts as a space, and of several the first is dropped. -/

namespace Lineup.Yaml.Scalar

/-- `first` is the first line break, which may be an escaped one that leaves no trace. -/
structure Gap where
  blanks : List Char := []
  first : List Char := []
  more : List Char := []
  broken : Bool := false

namespace Gap

def text (g : Gap) : List Char :=
  if ¬ g.broken then g.blanks
  else if g.first = ['\n'] then (if g.more = [] then [' '] else g.more)
  else g.first ++ g.more

/-- Reads blanks and line breaks. On a new line no tab may stand in front of the column
`indent`. -/
def read (indent : Nat) : (fuel : Nat) → Gap → Cursor → Option (Gap × Cursor)
  | 0, g, c => some (g, c)
  | fuel + 1, g, c =>
    match c.rest with
    | [] => some (g, c)
    | char :: _ =>
      if isBlank char then
        if g.broken then
          if char = '\t' ∧ c.column < indent then none else read indent fuel g (c.advance 1)
        else read indent fuel { g with blanks := g.blanks ++ [char] } (c.advance 1)
      else
        match c.lineBreak? with
        | none => some (g, c)
        | some (char, next) =>
          if g.broken then read indent fuel { g with more := g.more ++ [char] } next
          else read indent fuel { g with blanks := [], first := [char], broken := true } next

end Gap
end Lineup.Yaml.Scalar
