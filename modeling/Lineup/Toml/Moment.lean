import Lineup.Toml.Text

/-! Dates and times in TOML, as far as it takes to tell whether they exist and to write them
out again. -/

namespace Lineup.Toml.Moment

/-- A number of exactly `count` digits. -/
def number? (count : Nat) (rest : Rest) : Option (Nat × Rest) :=
  (Numeral.fixed? 10 count rest).map (·, rest.drop count)

def sign? (c : Char) : Rest → Option Rest
  | d :: rest => if c = d then some rest else none
  | [] => none

/-- A number of digits filled up with zeros in front. -/
def padded (width n : Nat) : String :=
  let digits := n.repr
  "".pushn '0' (width - digits.length) ++ digits

def daysIn (year month : Nat) : Nat :=
  let leap := year % 4 = 0 ∧ (year % 100 ≠ 0 ∨ year % 400 = 0)
  if month = 2 then (if leap then 29 else 28)
  else if month ∈ [4, 6, 9, 11] then 30
  else 31

/-- Reads a date and writes it. -/
def readDate (rest : Rest) : Option (String × Rest) := do
  let (year, rest) ← number? 4 rest
  let (month, rest) ← number? 2 (← sign? '-' rest)
  let (day, rest) ← number? 2 (← sign? '-' rest)
  if 1 ≤ month ∧ month ≤ 12 ∧ 1 ≤ day ∧ day ≤ daysIn year month then
    some (padded 4 year ++ "-" ++ padded 2 month ++ "-" ++ padded 2 day, rest)
  else none

/-- The first nine digits of a fraction without the zeros at their end. -/
def fractionText (digits : List Char) : String :=
  let kept := ((digits.take 9).reverse.dropWhile (· = '0')).reverse
  if kept = [] then "" else "." ++ String.ofList kept

/-- Reads a time of day and writes it. -/
def readTime (rest : Rest) : Option (String × Rest) := do
  let (hour, rest) ← number? 2 rest
  let (minute, rest) ← number? 2 (← sign? ':' rest)
  let (second, rest) ← number? 2 (← sign? ':' rest)
  if 23 < hour ∨ 59 < minute ∨ 60 < second then none
  else
    let whole := padded 2 hour ++ ":" ++ padded 2 minute ++ ":" ++ padded 2 second
    match sign? '.' rest with
    | some more =>
      let digits := more.takeWhile Char.isDigit
      if digits = [] then none
      else some (whole ++ fractionText digits, more.drop digits.length)
    | none => some (whole, rest)

/-- Reads the distance from universal time, if one comes next, and writes it. -/
def readOffset : Rest → Option (String × Rest)
  | 'Z' :: rest | 'z' :: rest => some ("Z", rest)
  | c :: rest =>
    if c = '+' ∨ c = '-' then do
      let (hour, rest) ← number? 2 rest
      let (minute, rest) ← number? 2 (← sign? ':' rest)
      if 23 < hour ∨ 59 < minute then none
      else
        let mark := if c = '-' ∧ (hour ≠ 0 ∨ minute ≠ 0) then "-" else "+"
        some (mark ++ padded 2 hour ++ ":" ++ padded 2 minute, rest)
    else some ("", c :: rest)
  | [] => some ("", [])

/-- Whether a date or a time of day begins here. -/
def isAt (rest : Rest) : Bool :=
  let after (count : Nat) (mark : Char) : Bool :=
    match number? count rest with
    | some (_, c :: _) => c = mark
    | _ => false
  after 4 '-' || after 2 ':'

/-- Reads a date, a time of day, or both with a letter or a space between them. -/
def read (rest : Rest) : Option (String × Rest) :=
  match number? 2 rest with
  | some (_, ':' :: _) => readTime rest
  | _ => do
    let (date, rest) ← readDate rest
    match rest with
    | c :: more =>
      let timed := (number? 2 more).any fun (_, r) => r.head? = some ':'
      if (c = 'T' ∨ c = 't' ∨ c = ' ') ∧ timed then do
        let (time, rest) ← readTime more
        let (offset, rest) ← readOffset rest
        some (date ++ "T" ++ time ++ offset, rest)
      else some (date, rest)
    | [] => some (date, [])

end Lineup.Toml.Moment
