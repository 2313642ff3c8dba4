import Lineup.Keyed
import Lineup.Numeral

/-! JSON values that are written out, on one line or spread over lines with two blanks for
each level. What is to be printed need not be such a value, and then it cannot be printed. -/

namespace Lineup.Json

inductive Value where
  | null
  | text (s : String)
  | list (items : List Value)
  | object (members : List (String × Value))
deriving Repr, Inhabited

namespace Value

/-- The members of a written object in the order of their names. -/
def ordered (members : List (String × Value)) : Value := object (Keyed.ofList members).entries

def ofOption : Option String → Value
  | some s => text s
  | none => null

/-- Quotes, backslashes and control characters are escaped, the latter by a short name or by
four hexadecimal digits. -/
def writtenChar (c : Char) : String :=
  if c = '"' then "\\\""
  else if c = '\\' then "\\\\"
  else if c = '\x08' then "\\b"
  else if c = '\x0c' then "\\f"
  else if c = '\n' then "\\n"
  else if c = '\r' then "\\r"
  else if c = '\t' then "\\t"
  else if c < ' ' then
    "\\u00" ++ (if c.toNat < 16 then "0" else "") ++ Numeral.hex c.toNat
  else c.toString

def writtenText (s : String) : String := "\"" ++ String.join (s.toList.map writtenChar) ++ "\""

mutual

/-- On one line, without blanks. -/
def compact : Value → String
  | null => "null"
  | text s => writtenText s
  | list items => "[" ++ ",".intercalate (compactItems items) ++ "]"
  | object members => "\x7b" ++ ",".intercalate (compactMembers members) ++ "\x7d"

def compactItems : List Value → List String
  | [] => []
  | v :: vs => v.compact :: compactItems vs

def compactMembers : List (String × Value) → List String
  | [] => []
  | (name, v) :: ms => (writtenText name ++ ":" ++ v.compact) :: compactMembers ms

end

/-- Puts each part on a line of its own between brackets; nothing stands between the brackets
of an empty value. -/
def spread (opening closing : String) (level : Nat) (parts : List String) : String :=
  if parts.isEmpty then opening ++ closing
  else
    let margin (n : Nat) : String := "\n" ++ "".pushn ' ' (2 * n)
    opening ++ ",".intercalate (parts.map (margin (level + 1) ++ ·)) ++ margin level ++ closing

mutual

/-- Spread over lines, inside of `level` brackets. -/
def pretty (level : Nat) : Value → String
  | null => "null"
  | text s => writtenText s
  | list items => spread "[" "]" level (prettyItems (level + 1) items)
  | object members => spread "\x7b" "\x7d" level (prettyMembers (level + 1) members)

def prettyItems (level : Nat) : List Value → List String
  | [] => []
  | v :: vs => v.pretty level :: prettyItems level vs

def prettyMembers (level : Nat) : List (String × Value) → List String
  | [] => []
  | (name, v) :: ms => (writtenText name ++ ": " ++ v.pretty level) :: prettyMembers level ms

end

end Value

/-- What may be given to the printer: anything can stand where an object has a name. -/
inductive Datum where
  | null
  | text (s : String)
  | list (items : List Datum)
  | map (entries : List (Datum × Datum))
deriving Repr, Inhabited

namespace Datum

/-- The name that a key stands for. -/
def name : Datum → Except String String
  | text s => .ok s
  | _ => .error "key must be a string"

mutual

/-- The value that is printed, up to the first key that is no text. -/
def value : Datum → Except String Value
  | null => .ok .null
  | text s => .ok (.text s)
  | list items => .list <$> values items
  | map entries => .object <$> members entries

def values : List Datum → Except String (List Value)
  | [] => .ok []
  | d :: ds => do
    let v ← d.value
    return v :: (← values ds)

def members : List (Datum × Datum) → Except String (List (String × Value))
  | [] => .ok []
  | (key, d) :: ds => do
    let name ← key.name
    let v ← d.value
    return (name, v) :: (← members ds)

end

def pretty (d : Datum) : Except String String := (·.pretty 0) <$> d.value

end Datum

mutual

/-- A value as something to be printed. -/
def Value.datum : Value → Datum
  | .null => .null
  | .text s => .text s
  | .list items => .list (Value.data items)
  | .object members => .map (Value.entries members)

def Value.data : List Value → List Datum
  | [] => []
  | v :: vs => v.datum :: Value.data vs

def Value.entries : List (String × Value) → List (Datum × Datum)
  | [] => []
  | (name, v) :: ms => (.text name, v.datum) :: Value.entries ms

end

end Lineup.Json
