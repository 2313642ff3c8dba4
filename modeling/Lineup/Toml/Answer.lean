import Lineup.Toml.Document
import Lineup.Decimal.Notation
import Lineup.Document.Reading

/-! The answers that a TOML document gives to a schema. Nothing is given as absent. A record may
be written as a list of its first members, and a word as the only key of a table. -/

namespace Lineup.Toml

open Document

/-- A text or a word that is not in order has no further explanation. -/
inductive Fault where
  | disorder
  | schema (cause : Cause)
deriving DecidableEq, Repr

def Fault.message : Fault → String
  | disorder => "syntax"
  | schema cause => cause.message

namespace Node

def found : Node → Found
  | text s => .text s
  | integer n => .integer n.toInt
  | floating x => .floating (Decimal.text Decimal.plain x)
  | bool b => .bool b
  | moment _ => .map
  | list _ => .list
  | table _ => .map

def refuse (expected : String) (v : Node) : Fault := .schema (.wrongType v.found expected)

def answerText (expected : String) : Node → Except Fault String
  | text s => .ok s
  | v => .error (v.refuse expected)

def answerInteger : Node → Except Fault Int64
  | integer n => .ok n
  | v => .error (v.refuse "i64")

def isEmpty : Node → Bool
  | list items => items.isEmpty
  | table entries => entries.isEmpty
  | _ => false

def answerChoice {α : Type} (words : List (String × α)) (v : Node) : Except Fault α :=
  let chosen (word : String) : Except Fault α :=
    match words.lookup word with
    | some a => .ok a
    | none => .error (.schema (.unknownWord word (words.map (·.1))))
  match v with
  | text s => chosen s
  | table [(word, beside)] => do
    let a ← chosen word
    if beside.isEmpty then .ok a else .error .disorder
  | _ => .error .disorder

def answerItems (expected : String) : Node → Except Fault (Items Node Fault)
  | list items => .ok ⟨items.map (⟨·, .ok ()⟩), .ok .schema⟩
  | v => .error (v.refuse expected)

def entry (e : String × Node) : Entry Node Fault where
  name _ := .ok e.1
  value := e.2
  atName := .schema
  atValue := .schema

/-- A date or time counts as a table with one key, which no other table has by chance. -/
def answerEntries (expected : String) : Node → Except Fault (Entries Node Fault)
  | table entries => .ok ⟨entries.map entry, .ok .schema⟩
  | moment written => .ok ⟨[entry ("$__toml_private_datetime", .text written)], .ok .schema⟩
  | v => .error (v.refuse expected)

def answerMembers (expected : String) (v : Node) :
    Except Fault (Document.Members Node Fault) :=
  match v with
  | list _ => .listed <$> v.answerItems expected
  | _ => .named <$> v.answerEntries expected

end Node

instance : Reading Node Fault where
  text := Node.answerText
  integer := Node.answerInteger
  choice := Node.answerChoice
  optional v := .ok (some v)
  items := Node.answerItems
  entries := Node.answerEntries
  members := Node.answerMembers

/-- Reads the table of a text, which has to be in order as a whole before the schema is asked. -/
def decode {α : Type} (read : (Cause → Fault) → Node → Except Fault α) (s : String) :
    Except String α :=
  let result :=
    match ofText? s with
    | some v => read .schema v
    | none => .error .disorder
  result.mapError Fault.message

end Lineup.Toml
