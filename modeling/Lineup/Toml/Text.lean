import Lineup.Numeral

/-! Characters, blanks, comments and strings in TOML. A reader gives what it has read and what
is left, or nothing if the text is not in order. -/

namespace Lineup.Toml

abbrev Rest := List Char

def isBlank (c : Char) : Bool := c = ' ' || c = '\t'

def isPlainKeyChar (c : Char) : Bool := c.isAlphanum || c = '_' || c = '-'

/-- The characters that may stand as they are in comments and strings. -/
def isPrintable (c : Char) : Bool :=
  c = '\t' || (' ' ≤ c && c ≤ '~') || 0x80 ≤ c.toNat

def skipBlank (rest : Rest) : Rest := rest.dropWhile isBlank

/-- Behind a line break, if one comes next. -/
def newline? : Rest → Option Rest
  | '\n' :: rest => some rest
  | '\r' :: '\n' :: rest => some rest
  | _ => none

/-- Behind a comment, if one comes next. -/
def skipComment : Rest → Rest
  | '#' :: rest => rest.dropWhile isPrintable
  | rest => rest

/-- Behind the end of a line that holds nothing more than a comment. -/
def endLine? (rest : Rest) : Option Rest :=
  match skipComment (skipBlank rest) with
  | [] => some []
  | rest => newline? rest

/-- Skips blanks and line breaks. -/
def skipLines : (fuel : Nat) → Rest → Rest
  | 0, rest => rest
  | fuel + 1, rest =>
    let rest := skipBlank rest
    match newline? rest with
    | some next => skipLines fuel next
    | none => rest

/-- Skips blanks, line breaks and comments. A comment has to end with a line break. -/
def skipGaps : (fuel : Nat) → Rest → Option Rest
  | 0, rest => some rest
  | fuel + 1, rest =>
    match skipBlank rest with
    | '#' :: rest => do skipGaps fuel (← newline? (skipComment ('#' :: rest)))
    | rest =>
      match newline? rest with
      | some next => skipGaps fuel next
      | none => some rest

namespace Text

/-- Reads an escape behind its backslash. -/
def readEscape : Rest → Option (Char × Rest)
  | 'b' :: rest => some ('\x08', rest)
  | 't' :: rest => some ('\t', rest)
  | 'n' :: rest => some ('\n', rest)
  | 'f' :: rest => some ('\x0c', rest)
  | 'r' :: rest => some ('\r', rest)
  | '"' :: rest => some ('"', rest)
  | '\\' :: rest => some ('\\', rest)
  | 'u' :: rest => do some (← Numeral.codePoint? 4 rest, rest.drop 4)
  | 'U' :: rest => do some (← Numeral.codePoint? 8 rest, rest.drop 8)
  | _ => none

/-- Reads a string on one line behind its double quote. The text is held backwards. -/
def readBasic : (fuel : Nat) → (done : List Char) → Rest → Option (String × Rest)
  | 0, _, _ => none
  | fuel + 1, done, rest =>
    match rest with
    | [] => none
    | '"' :: rest => some (String.ofList done.reverse, rest)
    | '\\' :: rest => do
      let (c, rest) ← readEscape rest
      readBasic fuel (c :: done) rest
    | c :: rest => if isPrintable c then readBasic fuel (c :: done) rest else none

/-- Reads a string on one line behind its single quote, in which there are no escapes. -/
def readLiteral (rest : Rest) : Option (String × Rest) :=
  let isInside (c : Char) : Bool := isPrintable c && c != '\''
  match rest.dropWhile isInside with
  | '\'' :: left => some (String.ofList (rest.takeWhile isInside), left)
  | _ => none

/-- Reads quotes in a string between three of them. Fewer than three belong to the string, and
so do two more in front of the last three. -/
def closing (quote : Char) (rest : Rest) : List Char × Option Rest :=
  let count := (rest.takeWhile (· = quote)).length
  if count < 3 then (List.replicate count quote, none)
  else
    let inside := min (count - 3) 2
    (List.replicate inside quote, some (rest.drop (inside + 3)))

/-- Reads a string over several lines behind its quotes. A line break behind a backslash is
dropped with all blanks and line breaks that follow it. -/
def readLong (quote : Char) (escapes : Bool) :
    (fuel : Nat) → (done : List Char) → Rest → Option (String × Rest)
  | 0, _, _ => none
  | fuel + 1, done, rest =>
    match rest with
    | [] => none
    | c :: more =>
      if c = quote then
        match closing quote rest with
        | (inside, some left) => some (String.ofList (inside ++ done).reverse, left)
        | (inside, none) => readLong quote escapes fuel (inside ++ done) (rest.drop inside.length)
      else if escapes ∧ c = '\\' then
        match newline? (skipBlank more) with
        | some next => readLong quote escapes fuel done (skipLines (next.length + 1) next)
        | none => do
          let (c, rest) ← readEscape more
          readLong quote escapes fuel (c :: done) rest
      else
        match newline? rest with
        | some next => readLong quote escapes fuel ('\n' :: done) next
        | none => if isPrintable c then readLong quote escapes fuel (c :: done) more else none

/-- A line break right behind the opening quotes does not count. -/
def readLongFrom (quote : Char) (escapes : Bool) (rest : Rest) : Option (String × Rest) :=
  let rest := (newline? rest).getD rest
  readLong quote escapes (rest.length + 1) [] rest

/-- Reads a string of any kind. -/
def read : Rest → Option (String × Rest)
  | '"' :: '"' :: '"' :: rest => readLongFrom '"' true rest
  | '\'' :: '\'' :: '\'' :: rest => readLongFrom '\'' false rest
  | '"' :: rest => readBasic (rest.length + 1) [] rest
  | '\'' :: rest => readLiteral rest
  | _ => none

end Text
end Lineup.Toml
