/-! Numerals of any base up to sixteen. The digits above nine are letters, read in either case
and written in lower case. -/

namespace Lineup.Numeral

def hexDigit? (c : Char) : Option Nat :=
  if c.isDigit then some (c.toNat - '0'.toNat)
  else if 'a' ≤ c ∧ c ≤ 'f' then some (c.toNat - 'a'.toNat + 10)
  else if 'A' ≤ c ∧ c ≤ 'F' then some (c.toNat - 'A'.toNat + 10)
  else none

def digit? (radix : Nat) (c : Char) : Option Nat := (hexDigit? c).filter (· < radix)

/-- The number that a numeral stands for. There is at least one digit in it. -/
def value? (radix : Nat) (digits : List Char) : Option Nat :=
  if digits = [] then none
  else digits.foldlM (fun n c => (n * radix + ·) <$> digit? radix c) 0

/-- The number in the first `count` characters, if there are that many. -/
def fixed? (radix count : Nat) (rest : List Char) : Option Nat :=
  let digits := rest.take count
  if digits.length < count then none else value? radix digits

/-- The character whose code point the first `count` characters give in hexadecimal. -/
def codePoint? (count : Nat) (rest : List Char) : Option Char :=
  match fixed? 16 count rest with
  | some n => if n.isValidChar then some (.ofNat n) else none
  | none => none

/-- Whether a word of 64 bits holds the number with its sign. -/
def fitsSigned (n : Int) : Bool := -0x8000000000000000 ≤ n && n < 0x8000000000000000

theorem fitsSigned_iff (n : Int) : fitsSigned n = true ↔ ∃ i : Int64, i.toInt = n := by
  simp only [fitsSigned, Bool.and_eq_true, decide_eq_true_eq]
  constructor
  · rintro ⟨hlow, hhigh⟩
    exact ⟨.ofInt n, Int64.toInt_ofInt_of_le (by omega) (by omega)⟩
  · rintro ⟨i, rfl⟩
    have hlow := i.le_toInt
    have hhigh := i.toInt_lt
    omega

/-- Whether a word of 64 bits holds the number, with a sign if it is negative. -/
def fitsWord (n : Int) : Bool := -0x8000000000000000 ≤ n && n < 0x10000000000000000

/-- Whether a word of 128 bits holds the number, with a sign if it is negative. -/
def fitsWideWord (n : Int) : Bool :=
  -0x80000000000000000000000000000000 ≤ n && n < 0x100000000000000000000000000000000

/-- The product of two words with a sign, or the last word on its side if there is no such word. -/
def saturatingMul (a b : Int64) : Int64 := .ofIntClamp (a.toInt * b.toInt)

def hex (n : Nat) : String := String.ofList (Nat.toDigits 16 n)

end Lineup.Numeral
