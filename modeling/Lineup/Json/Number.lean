import Lineup.Json.Fault
import Lineup.Numeral
import Lineup.Decimal.Notation

/-! Numbers in JSON. A number without fraction and exponent that fits 64 bits is an integer,
and every other number is a binary64 number. Its digits are gathered as long as they fit 64
bits, and the power of ten is applied to them afterwards in binary64 arithmetic. -/

namespace Lineup.Json

inductive Number where
  | integer (n : Int)
  | floating (x : Float)
deriving Repr, Inhabited

namespace Number

/-- Numbers are written with a point from four zeros behind it up to sixteen digits before
it. -/
def style : Decimal.Style := ⟨some (-4), some 16, .even⟩

/-- Gathers digits while the result stays below `bound`, and counts them. -/
def gather (bound : Nat) : (value count : Nat) → Rest → Nat × Nat × Rest
  | value, count, [] => (value, count, [])
  | value, count, c :: rest =>
    match Numeral.digit? 10 c with
    | some d =>
      if value * 10 + d < bound then gather bound (value * 10 + d) (count + 1) rest
      else (value, count, c :: rest)
    | none => (value, count, c :: rest)

/-- Divides by the power of ten in steps that stay within the range of binary64. -/
def divide : (fuel : Nat) → Float → (power : Nat) → Float
  | 0, x, _ => x
  | fuel + 1, x, power =>
    if power ≤ 308 then x / Float.ofScientific 1 false power
    else if x == 0 then x
    else divide fuel (x / 1e308) (power - 308)

/-- `significand * 10 ^ power`, unless it leaves the range of binary64. -/
def compose (negative : Bool) (significand : Nat) (power : Int) (rest : Rest) :
    Except Fault (Number × Rest) :=
  let start := significand.toUInt64.toFloat
  let outOfRange : Except Fault (Number × Rest) :=
    .error (.defect .numberOutOfRange ⟨rest, 0⟩)
  let signed (x : Float) : Except Fault (Number × Rest) :=
    .ok (.floating (if negative then -x else x), rest)
  if power < 0 then signed (divide ((-power).toNat + 1) start (-power).toNat)
  else if 308 < power then (if start == 0 then signed start else outOfRange)
  else
    let x := start * Float.ofScientific 1 false power.toNat
    if x.isInf then outOfRange else signed x

def exponentBound : Nat := 0x80000000

/-- Reads behind the letter of the exponent. -/
def readExponent (negative : Bool) (significand : Nat) (power : Int) (rest : Rest) :
    Except Fault (Number × Rest) :=
  let (down, rest) :=
    match rest with
    | '+' :: rest => (false, rest)
    | '-' :: rest => (true, rest)
    | rest => (false, rest)
  match rest with
  | [] => .error (.defect .valueMissing ⟨[], 0⟩)
  | c :: _ =>
    if c.isDigit then
      let (exponent, _, rest) := gather exponentBound 0 0 rest
      let power : Int := if down then power - exponent else power + exponent
      match rest with
      | [] => compose negative significand power []
      | c :: more =>
        if ¬ c.isDigit then compose negative significand power rest
        else if significand ≠ 0 ∧ ¬ down then .error (.defect .numberOutOfRange ⟨more, 0⟩)
        else .ok (.floating (if negative then -0.0 else 0.0), more.dropWhile Char.isDigit)
    else .error (.defect .badNumber (.behindNext rest))

/-- Reads what may follow the digits before the exponent. -/
def readTail (negative : Bool) (significand : Nat) (power : Int) (rest : Rest) :
    Except Fault (Number × Rest) :=
  match rest with
  | 'e' :: rest => readExponent negative significand power rest
  | 'E' :: rest => readExponent negative significand power rest
  | rest => compose negative significand power rest

def significandBound : Nat := 0x10000000000000000

/-- Reads behind the point. -/
def readFraction (negative : Bool) (significand : Nat) (power : Int) (rest : Rest) :
    Except Fault (Number × Rest) :=
  let (value, count, rest') := gather significandBound significand 0 rest
  match rest' with
  | c :: _ =>
    if c.isDigit then readTail negative value (power - count) (rest'.dropWhile Char.isDigit)
    else if count = 0 then .error (.defect .badNumber (.behindNext rest'))
    else readTail negative value (power - count) rest'
  | [] =>
    if count = 0 then .error (.defect .valueMissing ⟨[], 0⟩)
    else readTail negative value (power - count) []

/-- Reads behind the digits of the integer part, of which some may not have been gathered. -/
def readInteger (negative : Bool) (significand : Nat) (rest : Rest) :
    Except Fault (Number × Rest) :=
  let skipped := (rest.takeWhile Char.isDigit).length
  match rest.drop skipped with
  | '.' :: rest => readFraction negative significand skipped rest
  | rest =>
    if skipped ≠ 0 then readTail negative significand skipped rest
    else
      match rest with
      | 'e' :: _ | 'E' :: _ => readTail negative significand 0 rest
      | rest =>
        if ¬ negative then .ok (.integer significand, rest)
        else if significand = 0 ∨ ¬ Numeral.fitsSigned (-significand) then
          .ok (.floating (-significand.toUInt64.toFloat), rest)
        else .ok (.integer (-significand), rest)

/-- Reads a number behind its sign. -/
def readUnsigned (negative : Bool) : Rest → Except Fault (Number × Rest)
  | [] => .error (.defect .valueMissing ⟨[], 0⟩)
  | '0' :: rest =>
    match rest with
    | c :: _ =>
      if c.isDigit then .error (.defect .badNumber (.behindNext rest))
      else readInteger negative 0 rest
    | [] => readInteger negative 0 []
  | c :: rest =>
    if c.isDigit then
      let (value, _, rest') := gather significandBound 0 0 (c :: rest)
      readInteger negative value rest'
    else .error (.defect .badNumber (.behindNext (c :: rest)))

/-- Reads a text that begins with a digit or a minus sign. -/
def read : Rest → Except Fault (Number × Rest)
  | '-' :: rest => readUnsigned true rest
  | rest => readUnsigned false rest

def found : Number → Document.Found
  | integer n => .integer n
  | floating x => .floating (Decimal.text style x)

end Number
end Lineup.Json
