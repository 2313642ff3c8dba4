import Lineup.Decimal.Shortest

/-! Ways to write a number with its shortest digits. The point is written where the number
stands between the bounds of the style, and an exponent otherwise. -/

namespace Lineup.Decimal

/-- The point stands behind that many digits at least and at most; no bound is `none`. -/
structure Style where
  lowest : Option Int
  highest : Option Int
  tie : Tie

/-- The point is always written. -/
def plain : Style := ⟨none, none, .up⟩

def Style.positional (s : Style) (point : Int) : Bool :=
  s.lowest.all (· ≤ point) && s.highest.all (point ≤ ·)

/-- Digits with the point behind the first `point` of them, and at least one digit on both of
its sides. -/
def withPoint (digits : String) (point : Int) : String :=
  let zeros (n : Int) := "".pushn '0' n.toNat
  if point ≤ 0 then "0." ++ zeros (-point) ++ digits
  else if digits.length ≤ point then digits ++ zeros (point - digits.length) ++ ".0"
  else String.ofList (digits.toList.take point.toNat) ++ "."
    ++ String.ofList (digits.toList.drop point.toNat)

def withExponent (digits : String) (point : Int) : String :=
  let tail := String.ofList (digits.toList.drop 1)
  String.ofList (digits.toList.take 1) ++ (if tail.isEmpty then "" else "." ++ tail)
    ++ "e" ++ toString (point - 1)

def text (s : Style) (x : Float) : String :=
  if x.isNaN then "NaN"
  else
    let sign := if x.toBits >>> 63 = 1 then "-" else ""
    if x.isInf then sign ++ "inf"
    else if x.toBits &&& 0x7FFFFFFFFFFFFFFF = 0 then sign ++ "0.0"
    else
      let found := shortest s.tie x
      let digits := found.digits.repr
      let point := found.exponent + digits.length
      sign ++ if s.positional point then withPoint digits point else withExponent digits point

end Lineup.Decimal
