import Lineup.Document.Fault

/-! What is wrong with a JSON text, and where. A place is told by what is left of the text
there, so readers carry no counters; line and column are worked out when a fault is reported. -/

namespace Lineup.Json

/-- What is left of a text. -/
abbrev Rest := List Char

/-- `extra` bytes behind the beginning of the rest. -/
structure Place where
  rest : Rest
  extra : Nat := 0
deriving DecidableEq, Repr

/-- Behind the first byte of the rest. -/
def Place.behindNext (rest : Rest) : Place := ⟨rest, 1⟩

/-- Line and column of a place in a text. Lines count from one; columns count the bytes before
the place, and a line break belongs to the line before it. -/
def Place.position (whole : String) (p : Place) : Nat × Nat :=
  let bytes := whole.toUTF8.toList
  let left := (String.ofList p.rest).utf8ByteSize
  let before := bytes.take (bytes.length - left + p.extra)
  let lineBreak : UInt8 := 10
  (before.count lineBreak + 1, (before.reverse.takeWhile (· ≠ lineBreak)).length)

/-- How a text fails to be JSON. -/
inductive Defect where
  | listUnclosed
  | objectUnclosed
  | textUnclosed
  | valueMissing
  | colonExpected
  | listSeparatorExpected
  | objectSeparatorExpected
  | wordExpected
  | valueExpected
  | badEscape
  | badNumber
  | numberOutOfRange
  | badCodePoint
  | controlInText
  | keyNotText
  | loneSurrogate
  | trailingComma
  | trailingCharacters
  | escapeUnfinished
  | nestedTooDeep
deriving DecidableEq, Repr

def Defect.message : Defect → String
  | listUnclosed => "EOF while parsing a list"
  | objectUnclosed => "EOF while parsing an object"
  | textUnclosed => "EOF while parsing a string"
  | valueMissing => "EOF while parsing a value"
  | colonExpected => "expected `:`"
  | listSeparatorExpected => "expected `,` or `]`"
  | objectSeparatorExpected => "expected `,` or `\x7d`"
  | wordExpected => "expected ident"
  | valueExpected => "expected value"
  | badEscape => "invalid escape"
  | badNumber => "invalid number"
  | numberOutOfRange => "number out of range"
  | badCodePoint => "invalid unicode code point"
  | controlInText => "control character (\\u0000-\\u001F) found while parsing a string"
  | keyNotText => "key must be a string"
  | loneSurrogate => "lone leading surrogate in hex escape"
  | trailingComma => "trailing comma"
  | trailingCharacters => "trailing characters"
  | escapeUnfinished => "unexpected end of hex escape"
  | nestedTooDeep => "recursion limit exceeded"

/-- A fault of the text, or of the document that is written in it. A cause that concerns the
document as a whole has no place. -/
inductive Fault where
  | defect (what : Defect) (place : Place)
  | schema (cause : Document.Cause) (place : Option Place)
deriving DecidableEq, Repr

def Fault.message (whole : String) : Fault → String
  | defect what place => what.message ++ written place
  | schema cause (some place) => cause.message ++ written place
  | schema cause none => cause.message
where
  written (place : Place) : String :=
    let (line, column) := place.position whole
    s!" at line {line} column {column}"

end Lineup.Json
