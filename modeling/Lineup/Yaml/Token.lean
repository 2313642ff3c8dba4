import Lineup.Yaml.Cursor
import Lineup.Numeral

/-! The words of a YAML text, and those of them that are marked by their first character. -/

namespace Lineup.Yaml

/-- What tells a scalar without quotes and one in a literal block from the others. -/
inductive Style where
  | plain | quoted | literal | folded
deriving DecidableEq, Repr, Inhabited

inductive Token where
  | streamStart
  | streamEnd
  | version (major minor : Nat)
  | tagHandle (handle lead : String)
  | documentStart
  | documentEnd
  | blockList
  | blockMap
  | blockEnd
  | flowListStart
  | flowListEnd
  | flowMapStart
  | flowMapEnd
  | blockItem
  | flowNext
  | key
  | value
  | reference (name : String)
  | anchor (name : String)
  | tag (handle suffix : String)
  | scalar (style : Style) (text : String)
deriving DecidableEq, Repr, Inhabited

namespace Token

def isUriChar (verbatim : Bool) (c : Char) : Bool :=
  isWordChar c || c ∈ [';', '/', '?', ':', '@', '&', '=', '+', '$', '.', '!', '~', '*', '\'',
    '(', ')'] || (verbatim && c ∈ [',', '[', ']'])

/-- How many octets write a character that begins with this one. -/
def octets? (first : Nat) : Option Nat :=
  if first < 0x80 then some 1
  else if 0xC0 ≤ first ∧ first < 0xE0 then some 2
  else if 0xE0 ≤ first ∧ first < 0xF0 then some 3
  else if 0xF0 ≤ first ∧ first < 0xF8 then some 4
  else none

def octet? : List Char → Option (Nat × List Char)
  | '%' :: rest => (Numeral.fixed? 16 2 rest).map (·, rest.drop 2)
  | _ => none

/-- The further octets of a character. -/
def moreOctets : (count : Nat) → List Char → Option (List Nat × List Char)
  | 0, rest => some ([], rest)
  | count + 1, rest => do
    let (n, rest) ← octet? rest
    if n < 0x80 ∨ 0xC0 ≤ n then none
    else
      let (ns, rest) ← moreOctets count rest
      some (n :: ns, rest)

/-- One character that is written by its octets. -/
def escaped? (rest : List Char) : Option (List Char × List Char) := do
  let (first, rest) ← octet? rest
  let count ← octets? first
  let (more, rest) ← moreOctets (count - 1) rest
  let bytes := (first :: more).map UInt8.ofNat
  let text := (String.fromUTF8? ⟨bytes.toArray⟩).getD "\uFFFD"
  some (text.toList, rest)

/-- Reads the characters of an address. -/
def readUri (verbatim : Bool) :
    (fuel : Nat) → (text : List Char) → Cursor → Option (List Char × Cursor)
  | 0, text, c => some (text, c)
  | fuel + 1, text, c =>
    match c.rest with
    | [] => some (text, c)
    | char :: rest =>
      if char = '%' then do
        let (more, rest') ← escaped? c.rest
        readUri verbatim fuel (text ++ more) (c.advance (rest.length + 1 - rest'.length))
      else if isUriChar verbatim char then readUri verbatim fuel (text ++ [char]) (c.advance 1)
      else some (text, c)

/-- Reads an address that may not be empty. -/
def readAddress (verbatim : Bool) (c : Cursor) : Option (List Char × Cursor) := do
  let (text, c') ← readUri verbatim (c.rest.length + 1) [] c
  if c'.index = c.index then none else some (text, c')

/-- Reads an exclamation mark, a word and perhaps a second mark. -/
def readHandle (c : Cursor) : Option (List Char × Cursor) :=
  if c.isAt '!' then
    let (name, next) := (c.advance 1).span isWordChar
    if next.isAt '!' then some ('!' :: name ++ ['!'], next.advance 1)
    else some ('!' :: name, next)
  else none

/-- A tag: an address between angle brackets, a handle with a suffix, or a suffix behind a
single mark. A mark alone has an empty handle. -/
def readTag (flow : Bool) (c : Cursor) : Option (Token × Cursor) := do
  let (handle, suffix, c) ←
    if (c.advance 1).isAt '<' then do
      let (suffix, c) ← readAddress true (c.advance 2)
      if c.isAt '>' then some ([], suffix, c.advance 1) else none
    else do
      let (handle, next) ← readHandle c
      if 2 ≤ handle.length ∧ handle.getLast? = some '!' then do
        let (suffix, c) ← readAddress false next
        some (handle, suffix, c)
      else do
        let (more, c) ← readUri false (next.rest.length + 1) [] next
        let suffix := handle.drop 1 ++ more
        if suffix = [] then some ([], ['!'], c) else some (['!'], suffix, c)
  if atGap c.rest ∨ (flow ∧ c.isAt ',') then
    some (.tag (String.ofList handle) (String.ofList suffix), c)
  else none

/-- The name of an anchor or of an alias behind its mark. -/
def readAnchor (c : Cursor) : Option (String × Cursor) :=
  let (name, next) := c.span isWordChar
  if name = [] then none
  else if atGap next.rest ∨ next.rest.head?.any (· ∈ ['?', ':', ',', ']', '}', '%', '@', '`']) then
    some (String.ofList name, next)
  else none

/-- A number of at most nine digits. -/
def readVersionPart (c : Cursor) : Option (Nat × Cursor) :=
  let (digits, next) := c.span Char.isDigit
  if 9 < digits.length then none else (Numeral.value? 10 digits).map (·, next)

/-- A directive behind its mark, up to the end of its line. -/
def readDirective (c : Cursor) : Option (Token × Cursor) := do
  let (name, c) := c.span isWordChar
  if name = [] ∨ ¬ atGap c.rest then none
  else
    let blank := c.skipWhile isBlank
    if name = ['Y', 'A', 'M', 'L'] then do
      let (major, c) ← readVersionPart blank
      if ¬ c.isAt '.' then none
      else
        let (minor, c) ← readVersionPart (c.advance 1)
        some (.version major minor, ← c.endLine?)
    else if name = ['T', 'A', 'G'] then do
      let (handle, c) ← readHandle blank
      if handle.getLast? ≠ some '!' then none
      else if ¬ c.rest.head?.any isBlank then none
      else
        let (lead, c) ← readAddress true (c.skipWhile isBlank)
        if ¬ atGap c.rest then none
        else some (.tagHandle (String.ofList handle) (String.ofList lead), ← c.endLine?)
    else none

end Token
end Lineup.Yaml
