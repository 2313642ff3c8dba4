import Lineup.Json.Fault
import Lineup.Numeral

/-! Text in JSON: what an escape stands for, and reading up to the closing quote. -/

namespace Lineup.Json.Text

/-- What is wrong where four hexadecimal digits should stand: fewer than four bytes are left,
or the four bytes are no digits. -/
def badUnit (rest : Rest) : Fault :=
  if (String.ofList (rest.take 4)).utf8ByteSize < 4 then .defect .textUnclosed ⟨[], 0⟩
  else .defect .badEscape ⟨rest, 4⟩

def isLeading (unit : Nat) : Bool := 0xD800 ≤ unit && unit ≤ 0xDBFF

def isTrailing (unit : Nat) : Bool := 0xDC00 ≤ unit && unit ≤ 0xDFFF

def pair (leading trailing : Nat) : Char :=
  Char.ofNat (0x10000 + (leading - 0xD800) * 0x400 + (trailing - 0xDC00))

/-- What stands for a character behind a backslash. -/
def shortEscape? : Char → Option Char
  | '"' => some '"'
  | '\\' => some '\\'
  | '/' => some '/'
  | 'b' => some '\x08'
  | 'f' => some '\x0c'
  | 'n' => some '\n'
  | 'r' => some '\r'
  | 't' => some '\t'
  | _ => none

/-- Reads behind the opening quote. The text read so far is held backwards. -/
def read (done : List Char) : Rest → Except Fault (String × Rest)
  | [] => .error (.defect .textUnclosed ⟨[], 0⟩)
  | c :: rest =>
    if c = '"' then .ok (String.ofList done.reverse, rest)
    else if c = '\\' then
      match rest with
      | [] => .error (.defect .textUnclosed ⟨[], 0⟩)
      | 'u' :: a :: b :: c :: d :: rest =>
        match Numeral.value? 16 [a, b, c, d] with
        | none => .error (badUnit (a :: b :: c :: d :: rest))
        | some unit =>
          if isTrailing unit then .error (.defect .loneSurrogate ⟨rest, 0⟩)
          else if isLeading unit then
            match rest with
            | '\\' :: 'u' :: a :: b :: c :: d :: rest =>
              match Numeral.value? 16 [a, b, c, d] with
              | none => .error (badUnit (a :: b :: c :: d :: rest))
              | some second =>
                if isTrailing second then read (pair unit second :: done) rest
                else .error (.defect .loneSurrogate ⟨rest, 0⟩)
            | '\\' :: 'u' :: rest => .error (badUnit rest)
            | ['\\'] => .error (.defect .textUnclosed ⟨[], 0⟩)
            | '\\' :: rest => .error (.defect .escapeUnfinished (.behindNext rest))
            | [] => .error (.defect .textUnclosed ⟨[], 0⟩)
            | rest => .error (.defect .escapeUnfinished (.behindNext rest))
          else read (Char.ofNat unit :: done) rest
      | 'u' :: rest => .error (badUnit rest)
      | e :: rest' =>
        match shortEscape? e with
        | some c => read (c :: done) rest'
        | none => .error (.defect .badEscape (.behindNext rest))
    else if c < ' ' then .error (.defect .controlInText ⟨rest, 0⟩)
    else read (c :: done) rest

end Lineup.Json.Text
