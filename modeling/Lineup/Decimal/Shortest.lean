/-! The binary64 number that is nearest to a decimal one, and the fewest decimal digits that
read back as a given one. To find these a number is taken apart into `mantissa * 2 ^ exponent`;
every decimal between the midpoints to its neighbours reads back as it, and the midpoints do
too if the mantissa is even. -/

namespace Lineup.Decimal

/-- The number nearest to `n * 10 ^ e`, which is infinite if it is too large. Exponents that
are out of reach are cut. -/
def nearest (n : Nat) (e : Int) : Float :=
  let size : Int := (Nat.toDigits 10 n).length
  if n = 0 ∨ e + size < -400 then 0
  else if 400 < e + size then 1 / 0
  else if 0 ≤ e then .ofScientific n false e.toNat
  else .ofScientific n true (-e).toNat

/-- The digits `digits * 10 ^ exponent`, with no zero at the end. -/
structure Digits where
  digits : Nat
  exponent : Int
deriving DecidableEq, Repr

/-- The bit that stands in front of the fraction of a number that is not too small. -/
def leadingBit : Nat := 0x10000000000000

/-- Which of two decimals is taken that lie equally near: the larger one, or the one with the
even last digit. -/
inductive Tie where
  | up | even
deriving DecidableEq, Repr

/-- The nearer one of two neighbours on a grid, given the distances to them. -/
def Tie.nearer (tie : Tie) (down toDown toUp : Nat) : Nat :=
  if toDown < toUp then down
  else if toUp < toDown then down + 1
  else if tie = .even ∧ down % 2 = 0 then down
  else down + 1

/-- Mantissa and exponent of a finite number, without its sign. -/
def takeApart (bits : UInt64) : Nat × Int :=
  let fraction := (bits &&& 0xFFFFFFFFFFFFF).toNat
  let power := ((bits >>> 52) &&& 0x7FF).toNat
  if power = 0 then (fraction, -1074) else (leadingBit + fraction, power - 1075)

/-- The quotient `num / den * 10 ^ k` as a fraction of natural numbers. -/
def scale (num den : Nat) (k : Int) : Nat × Nat :=
  if 0 ≤ k then (num * Nat.pow 10 k.toNat, den) else (num, den * Nat.pow 10 (-k).toNat)

/-- The exponent of the leading decimal digit of `num / den`. -/
def leading (num den : Nat) : Int :=
  if den ≤ num then (Nat.toDigits 10 (num / den)).length - 1
  else
    let guess : Int := -(Nat.toDigits 10 (den / num)).length
    let (n, d) := scale num den (-guess - 1)
    if d ≤ n then guess + 1 else guess

/-- The point of the grid with `count` digits that reads back, the nearer one if both
neighbours of the number do. The number is `4 * mantissa` quarters of its last binary place,
and the midpoints to its neighbours lie `below` and `above` it. -/
def onGrid (tie : Tie) (num below above den : Nat) (even : Bool) (top : Int) (count : Nat) :
    Option Digits :=
  let shift := count - 1 - top
  let (n, d) := scale num den shift
  let lo := (scale (num - below) den shift).1
  let hi := (scale (num + above) den shift).1
  let inside (point : Nat) : Bool :=
    if even then lo ≤ point * d && point * d ≤ hi else lo < point * d && point * d < hi
  let down := n / d
  let up := down + 1
  match inside down, inside up with
  | true, true => some ⟨tie.nearer down (n - down * d) (up * d - n), -shift⟩
  | true, false => some ⟨down, -shift⟩
  | false, true => some ⟨up, -shift⟩
  | false, false => none

def Digits.trim : (fuel : Nat) → Digits → Digits
  | 0, x => x
  | fuel + 1, x =>
    if x.digits ≠ 0 ∧ x.digits % 10 = 0 then trim fuel ⟨x.digits / 10, x.exponent + 1⟩ else x

/-- The shortest digits of a finite number other than zero, without its sign. -/
def shortest (tie : Tie) (x : Float) : Digits :=
  let (mantissa, exponent) := takeApart x.toBits
  let quarters := 4 * mantissa
  let below := if mantissa = leadingBit ∧ exponent ≠ -1074 then 1 else 2
  let (unit, den) :=
    if 0 ≤ exponent then (1 <<< exponent.toNat, 4) else (1, 4 <<< (-exponent).toNat)
  let num := quarters * unit
  let top := leading num den
  let found := (List.range 17).findSome? fun i =>
    onGrid tie num (below * unit) (2 * unit) den (mantissa % 2 = 0) top (i + 1)
  (found.getD ⟨0, 0⟩).trim 20

end Lineup.Decimal
