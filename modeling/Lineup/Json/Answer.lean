import Lineup.Json.Node
import Lineup.Document.Reading

/-! The answers that a JSON text gives to a schema. A record may be written as a list, and a
word as an object that maps it to `null`. Last of all comes the end of the text. -/

namespace Lineup.Json

open Document

def Scalar.found : Scalar → Found
  | null => .null
  | bool b => .bool b
  | number n => n.found
  | text s => .text s

namespace Node

/-- A scalar is refused behind it, a list or an object at its bracket. -/
def refuse (expected : String) : Node → Fault
  | scalar _ after value => .schema (.wrongType value.found expected) (some ⟨after, 0⟩)
  | list start _ _ => .schema (.wrongType .list expected) (some ⟨start, 0⟩)
  | object start _ _ => .schema (.wrongType .map expected) (some ⟨start, 0⟩)
  | broken _ fault => fault

/-- Where a cause is reported that is noticed inside an object: behind blanks, and behind the
closing bracket if it follows. -/
def settle (rest : Rest) : Place :=
  match skipBlank rest with
  | '\x7d' :: rest => ⟨rest, 0⟩
  | rest => ⟨rest, 0⟩

/-- What is met if a list is expected to end in front of this rest. -/
def closeList (rest : Rest) : Except Fault Unit :=
  match skipBlank rest with
  | [] => .error (.defect .listUnclosed ⟨[], 0⟩)
  | ']' :: _ => .ok ()
  | ',' :: rest =>
    match skipBlank rest with
    | ']' :: rest => .error (.defect .trailingComma (.behindNext (']' :: rest)))
    | rest => .error (.defect .trailingCharacters (.behindNext rest))
  | rest => .error (.defect .trailingCharacters (.behindNext rest))

def item (v : Node) : Item Node Fault := ⟨v, v.after.bind closeList⟩

def reportAt (rest : Rest) (cause : Cause) : Fault := .schema cause (some ⟨rest, 0⟩)

def entry (m : Member Node) : Entry Node Fault where
  name _ := .ok m.key
  value := m.value
  atName cause := .schema cause (some (settle m.afterKey))
  atValue cause :=
    .schema cause <| match m.value.after with
      | .ok rest => some (settle rest)
      | .error _ => none

def answerText (expected : String) : Node → Except Fault String
  | scalar _ _ (.text s) => .ok s
  | v => .error (v.refuse expected)

def answerInteger : Node → Except Fault Int64
  | scalar _ after (.number (.integer n)) =>
    if Numeral.fitsSigned n then .ok (.ofInt n)
    else .error (.schema (.wrongValue (.integer n) "i64") (some ⟨after, 0⟩))
  | v => .error (v.refuse "i64")

def chosen {α : Type} (words : List (String × α)) (word : String) (after : Rest) :
    Except Fault α :=
  match words.lookup word with
  | some a => .ok a
  | none => .error (reportAt after (.unknownWord word (words.map (·.1))))

/-- The `null` beside a word, and nothing behind it. -/
def answerAlone (m : Member Node) (more : List (Member Node)) (finish : Except Fault Rest) :
    Except Fault Unit :=
  match m.value with
  | scalar _ after .null =>
    match more, finish with
    | [], .ok _ => .ok ()
    | _, _ =>
      match skipBlank after with
      | [] => .error (.defect .objectUnclosed ⟨[], 0⟩)
      | rest => .error (.defect .valueExpected ⟨rest, 0⟩)
  | v => .error (v.refuse "unit")

def answerChoice {α : Type} (words : List (String × α)) : Node → Except Fault α
  | scalar _ after (.text s) => chosen words s after
  | object _ (m :: more) finish => do
    let a ← chosen words m.key m.afterKey
    answerAlone m more finish
    .ok a
  | object start [] _ => .error ((read 1 (start.drop 1)).refuse "variant identifier")
  | broken start fault =>
    match start with
    | [] | '"' :: _ | '\x7b' :: _ => .error fault
    | start => .error (.defect .valueExpected (.behindNext start))
  | scalar start _ _ | list start _ _ => .error (.defect .valueExpected (.behindNext start))

def answerOptional : Node → Except Fault (Option Node)
  | scalar _ _ .null => .ok none
  | broken ('n' :: _) fault => .error fault
  | v => .ok (some v)

def answerItems (expected : String) : Node → Except Fault (Items Node Fault)
  | list _ items finish => .ok ⟨items.map item, finish.map reportAt⟩
  | v => .error (v.refuse expected)

def answerEntries (expected : String) : Node → Except Fault (Entries Node Fault)
  | object _ members finish => .ok ⟨members.map entry, finish.map reportAt⟩
  | v => .error (v.refuse expected)

def answerMembers (expected : String) : Node → Except Fault (Members Node Fault)
  | object _ members finish => .ok (.named ⟨members.map entry, finish.map reportAt⟩)
  | list _ items finish => .ok (.listed ⟨items.map item, finish.map reportAt⟩)
  | v => .error (v.refuse expected)

end Node

instance : Reading Node Fault where
  text := Node.answerText
  integer := Node.answerInteger
  choice := Node.answerChoice
  optional := Node.answerOptional
  items := Node.answerItems
  entries := Node.answerEntries
  members := Node.answerMembers

/-- Reads the value of a text, behind which nothing may follow. The reader is told how to
report a cause that concerns the whole document. -/
def decode {α : Type} (read : (Document.Cause → Fault) → Node → Except Fault α) (s : String) :
    Except String α :=
  let v := ofText s
  let result := do
    let a ← read (.schema · none) v
    closeText v
    .ok a
  result.mapError (Fault.message s)

end Lineup.Json
