import Lineup.Toml.Moment
import Lineup.Toml.Table
import Lineup.Decimal.Shortest

/-! Values in TOML: strings, numbers, truth values, dates, lists and tables on one line. -/

namespace Lineup.Toml

namespace Number

/-- Digits, between which single underscores may stand. -/
def digits? (isDigit : Char → Bool) : Rest → Option (List Char × Rest)
  | c :: rest =>
    if isDigit c then
      match rest with
      | '_' :: rest => do
        let (cs, rest) ← digits? isDigit rest
        some (c :: cs, rest)
      | d :: rest' =>
        if isDigit d then do
          let (cs, rest) ← digits? isDigit (d :: rest')
          some (c :: cs, rest)
        else some ([c], d :: rest')
      | [] => some ([c], [])
    else none
  | [] => none

/-- The number that digits of a base write. -/
def value (radix : Nat) (digits : List Char) : Nat := (Numeral.value? radix digits).getD 0

def isDigitOf (radix : Nat) (c : Char) : Bool := (Numeral.digit? radix c).isSome

/-- A sign and the digits before a point, of which the first may be zero only if it is the
only one. -/
def whole? (rest : Rest) : Option (Bool × List Char × Rest) :=
  let (negative, rest) :=
    match rest with
    | '+' :: rest => (false, rest)
    | '-' :: rest => (true, rest)
    | rest => (false, rest)
  match rest with
  | '0' :: rest => some (negative, ['0'], rest)
  | rest => do
    let (digits, rest) ← digits? Char.isDigit rest
    some (negative, digits, rest)

def bounded (n : Int) (rest : Rest) : Option (Node × Rest) :=
  if Numeral.fitsSigned n then some (.integer (.ofInt n), rest) else none

/-- Infinity has to be written as such, except for numbers that are too small. -/
def float (negative : Bool) (x : Float) (rest : Rest) : Option (Node × Rest) :=
  if negative then some (.floating (-x), rest)
  else if x.isInf then none
  else some (.floating x, rest)

/-- Reads an exponent behind its letter. -/
def readExponent (negative : Bool) (n : Nat) (places : Nat) (rest : Rest) :
    Option (Node × Rest) := do
  let (down, rest) :=
    match rest with
    | '+' :: rest => (false, rest)
    | '-' :: rest => (true, rest)
    | rest => (false, rest)
  let (digits, rest) ← digits? Char.isDigit rest
  let e : Int := value 10 digits
  float negative (Decimal.nearest n ((if down then -e else e) - places)) rest

/-- Reads what follows the digits before the point. -/
def readTail (negative : Bool) (digits : List Char) (rest : Rest) : Option (Node × Rest) :=
  match rest with
  | '.' :: rest => do
    let (fraction, rest) ← digits? Char.isDigit rest
    let n := value 10 (digits ++ fraction)
    match rest with
    | 'e' :: rest | 'E' :: rest => readExponent negative n fraction.length rest
    | rest => float negative (Decimal.nearest n (-fraction.length)) rest
  | 'e' :: rest | 'E' :: rest => readExponent negative (value 10 digits) 0 rest
  | rest =>
    let n : Int := value 10 digits
    bounded (if negative then -n else n) rest

def special? : Rest → Option (Float × Rest)
  | 'i' :: 'n' :: 'f' :: rest => some (1 / 0, rest)
  | 'n' :: 'a' :: 'n' :: rest => some (0 / 0, rest)
  | _ => none

def marked (radix : Nat) (rest : Rest) : Option (Node × Rest) := do
  let (digits, rest) ← digits? (isDigitOf radix) rest
  bounded (value radix digits) rest

/-- Reads a number. -/
def read (rest : Rest) : Option (Node × Rest) :=
  match rest with
  | '0' :: 'x' :: rest => marked 16 rest
  | '0' :: 'o' :: rest => marked 8 rest
  | '0' :: 'b' :: rest => marked 2 rest
  | rest =>
    let unsigned :=
      match rest with
      | '+' :: rest | '-' :: rest => rest
      | rest => rest
    match special? unsigned with
    | some (x, left) => some (.floating (if rest.head? = some '-' then -x else x), left)
    | none => do
      let (negative, digits, rest) ← whole? rest
      readTail negative digits rest

end Number

/-- Reads the part of a key between two points. -/
def readKeyPart (rest : Rest) : Option (String × Rest) :=
  match rest with
  | '"' :: rest => Text.readBasic (rest.length + 1) [] rest
  | '\'' :: rest => Text.readLiteral rest
  | rest =>
    match rest.takeWhile isPlainKeyChar with
    | [] => none
    | part => some (String.ofList part, rest.drop part.length)

/-- Reads the parts of a key, with blanks around each of them. -/
def readKeyParts : (fuel : Nat) → Rest → Option (List String × Rest)
  | 0, _ => none
  | fuel + 1, rest => do
    let (part, rest) ← readKeyPart (skipBlank rest)
    match skipBlank rest with
    | '.' :: rest => do
      let (parts, rest) ← readKeyParts fuel rest
      some (part :: parts, rest)
    | rest => some ([part], rest)

/-- Values and keys are nested less deep than this. -/
def depthLimit : Nat := 80

/-- Reads a key as the way to its table and its last part. -/
def readKey (rest : Rest) : Option (List String × String × Rest) := do
  let (parts, rest) ← readKeyParts (rest.length + 1) rest
  if depthLimit ≤ parts.length then none
  else some (parts.dropLast, ← parts.getLast?, rest)

/-- Reads the values of a list up to its closing bracket. -/
def readItems (value : Rest → Option (Node × Rest)) :
    (fuel : Nat) → Rest → Option (List Node × Rest)
  | 0, _ => none
  | fuel + 1, rest => do
    match ← skipGaps (rest.length + 1) rest with
    | ']' :: rest => some ([], rest)
    | rest =>
      let (v, rest) ← value rest
      match ← skipGaps (rest.length + 1) rest with
      | ']' :: rest => some ([v], rest)
      | ',' :: rest =>
        let (vs, rest) ← readItems value fuel rest
        some (v :: vs, rest)
      | _ => none

/-- Reads the members of a table on one line, behind the opening bracket or a comma. -/
def readMembers (value : Rest → Option (Node × Rest)) :
    (fuel : Nat) → Members → Rest → Option (Members × Rest)
  | 0, _, _ => none
  | fuel + 1, ms, rest => do
    let (path, key, rest) ← readKey rest
    match rest with
    | '=' :: rest =>
      let (v, rest) ← value (skipBlank rest)
      let ms ← Table.put path key v ms
      match skipBlank rest with
      | '\x7d' :: rest => some (ms, rest)
      | ',' :: rest => readMembers value fuel ms rest
      | _ => none
    | _ => none

/-- Reads a value that is no list or table. -/
def readSimple (rest : Rest) : Option (Node × Rest) :=
  match rest with
  | '"' :: _ | '\'' :: _ => (Text.read rest).map fun (s, rest) => (.text s, rest)
  | 't' :: 'r' :: 'u' :: 'e' :: rest => some (.bool true, rest)
  | 'f' :: 'a' :: 'l' :: 's' :: 'e' :: rest => some (.bool false, rest)
  | rest =>
    if Moment.isAt rest then (Moment.read rest).map fun (s, rest) => (.moment s, rest)
    else Number.read rest

/-- Reads a value in which lists and tables are nested at most `depth` times. -/
def readValue : (depth : Nat) → Rest → Option (Node × Rest)
  | depth + 1, '[' :: rest => do
    let (items, rest) ← readItems (readValue depth) (rest.length + 1) rest
    some (.list items, rest)
  | depth + 1, '\x7b' :: rest =>
    match skipBlank rest with
    | '\x7d' :: rest => some (.table [], rest)
    | rest => do
      let (ms, rest) ← readMembers (readValue depth) (rest.length + 1) [] rest
      some (.table (Part.nodes ms), rest)
  | _, rest => readSimple rest

end Lineup.Toml
