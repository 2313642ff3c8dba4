import Lineup.Numeral
import Lineup.Yaml.Scalar.Gap

/-! Scalars between single or double quotes. Between single quotes a quote is written twice;
between double quotes there are escapes. -/

namespace Lineup.Yaml.Scalar

inductive Quote where
  | single | double
deriving DecidableEq, Repr

def Quote.char : Quote → Char
  | single => '\''
  | double => '"'

/-- What stands for one character behind a backslash. -/
def shortEscape? (c : Char) : Option Char :=
  [('0', '\x00'), ('a', '\x07'), ('b', '\x08'), ('t', '\t'), ('\t', '\t'), ('n', '\n'),
    ('v', '\x0b'), ('f', '\x0c'), ('r', '\r'), ('e', '\x1b'), (' ', ' '), ('"', '"'),
    ('/', '/'), ('\\', '\\'), ('N', '\x85'), ('_', '\xa0'), ('L', '\u2028'),
    ('P', '\u2029')].lookup c

/-- How many hexadecimal digits follow the letter of an escape. -/
def longEscape? (c : Char) : Option Nat := [('x', 2), ('u', 4), ('U', 8)].lookup c

/-- Reads up to a gap, to the closing quote or behind an escaped line break, of which the
second part of the answer tells. The text is held backwards. -/
def quotedRun (quote : Quote) :
    (fuel : Nat) → (text : List Char) → Cursor → Option (List Char × Bool × Cursor)
  | 0, text, c => some (text, false, c)
  | fuel + 1, text, c =>
    match c.rest with
    | [] => some (text, false, c)
    | char :: rest =>
      if isBlank char || isBreak char then some (text, false, c)
      else if quote = .single ∧ char = '\'' ∧ rest.head? = some '\'' then
        quotedRun quote fuel ('\'' :: text) (c.advance 2)
      else if char = quote.char then some (text, false, c)
      else if quote = .double ∧ char = '\\' then
        match rest with
        | [] => none
        | e :: digits =>
          if isBreak e then some (text, true, (c.advance 1).skipBreak)
          else
            match shortEscape? e, longEscape? e with
            | some d, _ => quotedRun quote fuel (d :: text) (c.advance 2)
            | none, some count =>
              match Numeral.codePoint? count digits with
              | some d => quotedRun quote fuel (d :: text) (c.advance (2 + count))
              | none => none
            | none, none => none
      else quotedRun quote fuel (char :: text) (c.advance 1)

/-- Reads behind the opening quote. -/
def readQuoted (quote : Quote) :
    (fuel : Nat) → (text : List Char) → Cursor → Option (List Char × Cursor)
  | 0, _, _ => none
  | fuel + 1, text, c =>
    if c.atMark ∨ c.rest = [] then none
    else do
      let (run, broken, c) ← quotedRun quote (c.rest.length + 1) [] c
      let text := text ++ run.reverse
      if c.isAt quote.char then some (text, c.advance 1)
      else
        let (gap, c) ← Gap.read 0 (c.rest.length + 1) { broken } c
        readQuoted quote fuel (text ++ gap.text) c

end Lineup.Yaml.Scalar
