import Lineup.Yaml.Node
import Lineup.Decimal.Notation
import Lineup.Document.Fault

/-! What a scalar without quotes stands for: nothing, a truth value, a number or text. -/

namespace Lineup.Yaml.Resolution

open Document

def isNull (s : String) : Bool := s = "null" || s = "Null" || s = "NULL" || s = "~"

def bool? (s : String) : Option Bool :=
  if s = "true" ∨ s = "True" ∨ s = "TRUE" then some true
  else if s = "false" ∨ s = "False" ∨ s = "FALSE" then some false
  else none

def isSign (c : Char) : Bool := c = '+' || c = '-'

/-- A zero with further digits behind it, which is text. -/
def isPadded (cs : List Char) : Bool :=
  let cs := if cs.head?.any isSign then cs.drop 1 else cs
  2 ≤ cs.length && cs.head? = some '0' && cs.all Char.isDigit

/-- The digits of another base behind their mark. -/
def marked? : List Char → Option Nat
  | '0' :: 'x' :: cs => Numeral.value? 16 cs
  | '0' :: 'o' :: cs => Numeral.value? 8 cs
  | '0' :: 'b' :: cs => Numeral.value? 2 cs
  | _ => none

def unsigned? (cs : List Char) : Option Nat :=
  match marked? cs with
  | some n => some n
  | none => if isPadded cs then none else Numeral.value? 10 cs

/-- A number with a sign or without. -/
def signed? (read : List Char → Option Nat) : List Char → Option Int
  | '-' :: cs => (read cs).map fun n => -(n : Int)
  | '+' :: cs => (read cs).map Int.ofNat
  | cs => (read cs).map Int.ofNat

/-- An integer in base ten or in another base. -/
def integer? (cs : List Char) : Option Int := signed? unsigned? cs

/-- Digits before and behind a point, of which one may be missing. -/
def mantissa? (cs : List Char) : Option (Nat × Nat) :=
  let whole := cs.takeWhile Char.isDigit
  let fraction? : Option (List Char) :=
    match cs.dropWhile Char.isDigit with
    | [] => some []
    | '.' :: fraction => if fraction.all Char.isDigit then some fraction else none
    | _ => none
  match fraction? with
  | some fraction =>
    if whole = [] ∧ fraction = [] then none
    else (Numeral.value? 10 (whole ++ fraction)).map fun n => (n, fraction.length)
  | none => none

/-- A decimal number without sign that is not too large for binary64. -/
def decimal? (cs : List Char) : Option Float := do
  let isMark (c : Char) : Bool := c = 'e' || c = 'E'
  let (n, places) ← mantissa? (cs.takeWhile fun c => ! isMark c)
  let e ← match cs.dropWhile fun c => ! isMark c with
    | [] => some 0
    | _ :: e => signed? (Numeral.value? 10) e
  let x := Decimal.nearest n (e - places)
  if x.isFinite then some x else none

def floating? (s : String) : Option Float :=
  let cs := s.toList
  let isInf (cs : List Char) : Bool := ['.', 'i', 'n', 'f'] = cs || ['.', 'I', 'n', 'f'] = cs
    || ['.', 'I', 'N', 'F'] = cs
  if s = ".nan" ∨ s = ".NaN" ∨ s = ".NAN" then some (0 / 0)
  else
    match cs with
    | '-' :: rest => if isInf rest then some (-1 / 0) else (decimal? rest).map (-·)
    | '+' :: rest => if isInf rest then some (1 / 0) else decimal? rest
    | cs => if isInf cs then some (1 / 0) else decimal? cs

/-- An integer that some machine word of 128 bits holds. -/
def foundInteger? (s : String) : Option Found :=
  match integer? s.toList with
  | some n =>
    if Numeral.fitsWord n then some (.integer n)
    else if Numeral.fitsWideWord n then some (.wideInteger n)
    else none
  | none => none

/-- What a scalar without quotes stands for. -/
def found (s : String) : Found :=
  if s = "" ∨ isNull s then .nothing
  else
    match bool? s with
    | some b => .bool b
    | none =>
      match foundInteger? s with
      | some n => n
      | none =>
        if isPadded s.toList then .text s
        else
          match floating? s with
          | some x => .floating (Decimal.text Decimal.plain x)
          | none => .text s

end Lineup.Yaml.Resolution
