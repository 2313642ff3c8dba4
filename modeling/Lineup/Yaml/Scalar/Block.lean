import Lineup.Yaml.Cursor

/-! Scalars that are an indented block of lines. In a literal block the lines stay apart; in a
folded one a single line break between two lines that begin with a word counts as a space. -/

namespace Lineup.Yaml.Scalar

/-- What becomes of the line breaks at the end: all but the first are dropped, or all, or
none. -/
inductive Chomp where
  | clip | strip | keep
deriving DecidableEq, Repr

def chompOf? : Char → Option Chomp
  | '+' => some .keep
  | '-' => some .strip
  | _ => none

/-- What stands behind the bar: how to chomp and how deep the block is indented, in any order.
No depth is zero, and zero may not be written. -/
def readHeader (c : Cursor) : Option (Chomp × Nat × Cursor) :=
  let depth? (c : Cursor) : Option (Nat × Cursor) :=
    match c.rest with
    | d :: _ =>
      if d = '0' then none
      else if d.isDigit then some (d.toNat - '0'.toNat, c.advance 1)
      else some (0, c)
    | [] => some (0, c)
  let chomp (c : Cursor) : Chomp × Cursor :=
    match c.rest.head?.bind chompOf? with
    | some x => (x, c.advance 1)
    | none => (.clip, c)
  if (c.rest.head?.bind chompOf?).isSome then do
    let (x, c) := chomp c
    let (n, c) ← depth? c
    some (x, n, c)
  else do
    let (n, c) ← depth? c
    if n = 0 then some (.clip, 0, c)
    else
      let (x, c) := chomp c
      some (x, n, c)

/-- Reads empty lines and the indentation behind them. While the depth of the block is not
known, the deepest line tells it; the answer holds that line's column. -/
def readBreaks (indent : Nat) :
    (fuel : Nat) → (breaks : List Char) → (deepest : Nat) → Cursor →
      Option (List Char × Nat × Cursor)
  | 0, _, _, _ => none
  | fuel + 1, breaks, deepest, c =>
    let blanks := (c.rest.takeWhile (· = ' ')).length
    let c := c.advance (if indent = 0 then blanks else min blanks (indent - c.column))
    let deepest := max deepest c.column
    if (indent = 0 ∨ c.column < indent) ∧ c.isAt '\t' then none
    else
      match c.lineBreak? with
      | some (char, next) => readBreaks indent fuel (breaks ++ [char]) deepest next
      | none => some (breaks, deepest, c)

/-- The lines read so far: `last` is the break behind the last line, `breaks` those of the empty
lines behind it, and `blank` tells whether the last line began with a blank. -/
structure Lines where
  text : List Char := []
  last : List Char := []
  breaks : List Char := []
  blank : Bool := false

def Lines.joined (folded : Bool) (l : Lines) (blankNext : Bool) : List Char :=
  if folded ∧ l.last = ['\n'] ∧ ¬ l.blank ∧ ¬ blankNext then
    l.text ++ (if l.breaks = [] then [' '] else []) ++ l.breaks
  else l.text ++ l.last ++ l.breaks

/-- Reads the lines of a block that begins at the column `indent`. -/
def readLines (folded : Bool) (indent : Nat) :
    (fuel : Nat) → Lines → Cursor → Option (Lines × Cursor)
  | 0, l, c => some (l, c)
  | fuel + 1, l, c =>
    match c.rest with
    | [] => some (l, c)
    | char :: _ =>
      if c.column ≠ indent then some (l, c)
      else do
        let blank := isBlank char
        let (line, next) := c.span (! isBreak ·)
        let text := l.joined folded blank ++ line
        let (last, next) :=
          match next.lineBreak? with
          | some (char, next) => ([char], next)
          | none => ([], next)
        let (breaks, _, next) ← readBreaks indent (next.rest.length + 1) [] 0 next
        readLines folded indent fuel { text, last, breaks, blank } next

/-- Reads behind the bar. The block is indented deeper than `parent`, the column of what it
belongs to, which is negative at the top. -/
def readBlock (folded : Bool) (parent : Int) (c : Cursor) : Option (List Char × Cursor) := do
  let (chomp, depth, c) ← readHeader c
  let c ← c.endLine?
  let given : Nat := if depth = 0 then 0 else ((if 0 ≤ parent then parent else 0) + depth).toNat
  let (breaks, deepest, c) ← readBreaks given (c.rest.length + 1) [] 0 c
  let indent := if given = 0 then max (max deepest (parent + 1).toNat) 1 else given
  let (l, c) ← readLines folded indent (c.rest.length + 1) { breaks } c
  let text := match chomp with
    | .strip => l.text
    | .clip => l.text ++ l.last
    | .keep => l.text ++ l.last ++ l.breaks
  some (text, c)

end Lineup.Yaml.Scalar
