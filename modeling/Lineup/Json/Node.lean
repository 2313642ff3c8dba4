import Lineup.Json.Number
import Lineup.Json.Text

/-! A JSON text as a tree. A node knows what is left of the text at its beginning and behind
it, and a text that is cut short or spoilt is a tree up to the spot where it goes wrong. -/

namespace Lineup.Json

inductive Scalar where
  | null
  | bool (b : Bool)
  | number (n : Number)
  | text (s : String)
deriving Repr, Inhabited

/-- A member of an object, with what is left of the text behind its key. -/
structure Member (ν : Type) where
  key : String
  afterKey : Rest
  value : ν
deriving Repr

/-- The last argument of a list or an object is what is left behind the closing bracket, or
what is met when one reads on behind the last element. -/
inductive Node where
  | scalar (start after : Rest) (value : Scalar)
  | list (start : Rest) (items : List Node) (finish : Except Fault Rest)
  | object (start : Rest) (members : List (Member Node)) (finish : Except Fault Rest)
  | broken (start : Rest) (fault : Fault)
deriving Inhabited

namespace Node

def after : Node → Except Fault Rest
  | scalar _ after _ => .ok after
  | list _ _ finish => finish
  | object _ _ finish => finish
  | broken _ fault => .error fault

def isBlank (c : Char) : Bool := c = ' ' || c = '\n' || c = '\t' || c = '\r'

def skipBlank (rest : Rest) : Rest := rest.dropWhile isBlank

/-- Reads the letters of a fixed word. -/
def readLetters : (letters : List Char) → Rest → Except Fault Rest
  | [], rest => .ok rest
  | _ :: _, [] => .error (.defect .valueMissing ⟨[], 0⟩)
  | c :: letters, d :: rest =>
    if c = d then readLetters letters rest
    else .error (.defect .wordExpected (.behindNext (d :: rest)))

def ofResult (start : Rest) : Except Fault (Scalar × Rest) → Node
  | .ok (value, after) => scalar start after value
  | .error fault => broken start fault

/-- Reads a value that is neither a list nor an object. -/
def readScalar (start : Rest) : Node :=
  match start with
  | [] => broken [] (.defect .valueMissing ⟨[], 0⟩)
  | '"' :: rest => ofResult start ((Text.read [] rest).map fun (s, after) => (.text s, after))
  | 'n' :: rest => ofResult start ((readLetters ['u', 'l', 'l'] rest).map (.null, ·))
  | 't' :: rest => ofResult start ((readLetters ['r', 'u', 'e'] rest).map (.bool true, ·))
  | 'f' :: rest => ofResult start ((readLetters ['a', 'l', 's', 'e'] rest).map (.bool false, ·))
  | c :: _ =>
    if c.isDigit ∨ c = '-' then
      ofResult start ((Number.read start).map fun (n, after) => (.number n, after))
    else broken start (.defect .valueExpected (.behindNext start))

/-- Reads behind an element of a list. -/
def readItems (value : Rest → Node) : (fuel : Nat) → Rest → List Node × Except Fault Rest
  | 0, _ => ([], .error (.defect .listUnclosed ⟨[], 0⟩))
  | fuel + 1, rest =>
    match skipBlank rest with
    | [] => ([], .error (.defect .listUnclosed ⟨[], 0⟩))
    | ']' :: rest => ([], .ok rest)
    | ',' :: rest =>
      match skipBlank rest with
      | [] => ([], .error (.defect .valueMissing ⟨[], 0⟩))
      | ']' :: rest => ([], .error (.defect .trailingComma (.behindNext (']' :: rest))))
      | rest =>
        let v := value rest
        match v.after with
        | .ok rest =>
          let (vs, finish) := readItems value fuel rest
          (v :: vs, finish)
        | .error fault => ([v], .error fault)
    | rest => ([], .error (.defect .listSeparatorExpected (.behindNext rest)))

/-- Reads behind the opening bracket of a list. -/
def readList (value : Rest → Node) (rest : Rest) : List Node × Except Fault Rest :=
  match skipBlank rest with
  | [] => ([], .error (.defect .listUnclosed ⟨[], 0⟩))
  | ']' :: rest => ([], .ok rest)
  | rest =>
    let v := value rest
    match v.after with
    | .ok rest =>
      let (vs, finish) := readItems value (rest.length + 1) rest
      (v :: vs, finish)
    | .error fault => ([v], .error fault)

/-- Reads the colon and the value of a member. -/
def readMember (value : Rest → Node) (rest : Rest) : Node :=
  match skipBlank rest with
  | [] => broken [] (.defect .objectUnclosed ⟨[], 0⟩)
  | ':' :: rest => value rest
  | rest => broken rest (.defect .colonExpected (.behindNext rest))

mutual

/-- Reads at the key of a member. -/
def readMembers (value : Rest → Node) :
    (fuel : Nat) → Rest → List (Member Node) × Except Fault Rest
  | 0, _ => ([], .error (.defect .objectUnclosed ⟨[], 0⟩))
  | fuel + 1, rest =>
    match rest with
    | '"' :: rest =>
      match Text.read [] rest with
      | .error fault => ([], .error fault)
      | .ok (key, afterKey) =>
        let v := readMember value afterKey
        match v.after with
        | .ok rest =>
          let (ms, finish) := readMoreMembers value fuel rest
          (⟨key, afterKey, v⟩ :: ms, finish)
        | .error fault => ([⟨key, afterKey, v⟩], .error fault)
    | rest => ([], .error (.defect .keyNotText (.behindNext rest)))

/-- Reads behind a member. -/
def readMoreMembers (value : Rest → Node) :
    (fuel : Nat) → Rest → List (Member Node) × Except Fault Rest
  | 0, _ => ([], .error (.defect .objectUnclosed ⟨[], 0⟩))
  | fuel + 1, rest =>
    match skipBlank rest with
    | [] => ([], .error (.defect .objectUnclosed ⟨[], 0⟩))
    | '\x7d' :: rest => ([], .ok rest)
    | ',' :: rest =>
      match skipBlank rest with
      | [] => ([], .error (.defect .valueMissing ⟨[], 0⟩))
      | '\x7d' :: rest => ([], .error (.defect .trailingComma (.behindNext ('\x7d' :: rest))))
      | rest => readMembers value fuel rest
    | rest => ([], .error (.defect .objectSeparatorExpected (.behindNext rest)))

end

/-- Reads behind the opening bracket of an object. -/
def readObject (value : Rest → Node) (rest : Rest) : List (Member Node) × Except Fault Rest :=
  match skipBlank rest with
  | [] => ([], .error (.defect .objectUnclosed ⟨[], 0⟩))
  | '\x7d' :: rest => ([], .ok rest)
  | rest => readMembers value (2 * rest.length + 1) rest

/-- Reads a value in which lists and objects are nested at most `depth` times. -/
def read : (depth : Nat) → Rest → Node
  | 0, rest =>
    match skipBlank rest with
    | '[' :: rest => broken ('[' :: rest) (.defect .nestedTooDeep (.behindNext ('[' :: rest)))
    | '\x7b' :: rest =>
      broken ('\x7b' :: rest) (.defect .nestedTooDeep (.behindNext ('\x7b' :: rest)))
    | start => readScalar start
  | depth + 1, rest =>
    match skipBlank rest with
    | '[' :: rest =>
      let (items, finish) := readList (read depth) rest
      list ('[' :: rest) items finish
    | '\x7b' :: rest =>
      let (members, finish) := readObject (read depth) rest
      object ('\x7b' :: rest) members finish
    | start => readScalar start

end Node

/-- Nothing but blanks may follow the value of a text. -/
def closeText (v : Node) : Except Fault Unit := do
  match Node.skipBlank (← v.after) with
  | [] => .ok ()
  | rest => .error (.defect .trailingCharacters (.behindNext rest))

/-- The value of a text. -/
def ofText (s : String) : Node := Node.read 127 s.toList

end Lineup.Json
