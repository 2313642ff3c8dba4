import Lineup.Yaml.Resolution
import Lineup.Document.Reading

/-! The answers that a YAML document gives to a schema. Text may be written without quotes, a
word as a tag with nothing behind it, and an empty list or map may be left out. -/

namespace Lineup.Yaml

open Document

/-- How one comes to a node: by the index of an item or by the key of a member, if that is a
scalar. -/
inductive Step where
  | item (index : Nat)
  | member (key : Option String)
deriving DecidableEq, Repr

/-- The steps from the root, the last one first. -/
abbrev Route := List Step

def Route.text : Route → String
  | [] => "."
  | .item index :: rest => text rest ++ "[" ++ index.repr ++ "]"
  | .member key :: [] => key.getD "?"
  | .member key :: rest => text rest ++ "." ++ key.getD "?"

/-- A text that is not in order has no further explanation. A cause is reported with its
route, unless it concerns the whole document. -/
inductive Fault where
  | disorder
  | schema (cause : Cause) (route : Route)
deriving DecidableEq, Repr

def Fault.message : Fault → String
  | disorder => "syntax"
  | schema cause [] => cause.message
  | schema cause route => route.text ++ ": " ++ cause.message

/-- A node with the way to it, and the anchored nodes of its document, of which the last one
with a number counts. -/
structure Place where
  node : Node
  route : Route
  anchored : List (Nat × Node)

namespace Place

/-- The node that an alias stands for. There is no limit here on how often aliases are followed
within one document. -/
def target (p : Place) : Node :=
  match p.node with
  | .reference number => ((p.anchored.reverse.lookup number).getD .broken)
  | node => node

def report (p : Place) (cause : Cause) : Fault := .schema cause p.route

def coreTag (name : String) : String := "tag:yaml.org,2002:" ++ name

/-- What a scalar stands for. One of the common tags asks for a value of its kind, any other
tag leaves text as it is, and a tag of the document is as good as none. -/
def foundScalar (tag : Option String) (style : Style) (text : String) : Cause ⊕ Found :=
  let kind (found : Option Found) (expected : String) : Cause ⊕ Found :=
    match found with
    | some found => .inr found
    | none => .inl (.wrongValue (.text text) expected)
  match tag with
  | some tag =>
    if tag = coreTag "bool" then kind ((Resolution.bool? text).map .bool) "a boolean"
    else if tag = coreTag "int" then kind (Resolution.foundInteger? text) "an integer"
    else if tag = coreTag "float" then
      kind ((Resolution.floating? text).map (.floating <| Decimal.text Decimal.plain ·)) "a float"
    else if tag = coreTag "null" then
      kind (if Resolution.isNull text then some .nothing else none) "null"
    else if tag.toList.head? = some '!' ∧ style = .plain then .inr (Resolution.found text)
    else .inr (.text text)
  | none => .inr (if style = .plain then Resolution.found text else .text text)

def refuse (p : Place) (expected : String) : Fault :=
  match p.target with
  | .scalar _ tag style text =>
    match foundScalar tag style text with
    | .inl cause => p.report cause
    | .inr found => p.report (.wrongType found expected)
  | .list .. => p.report (.wrongType .list expected)
  | .map .. => p.report (.wrongType .map expected)
  | .reference _ | .nothing | .broken => .disorder

/-- An empty scalar without quotes may stand for an empty list or map. -/
def isLeftOut : Node → Bool
  | .nothing => true
  | .scalar _ _ .plain "" => true
  | _ => false

def finish (p : Place) (complete : Bool) : Except Fault (Cause → Fault) :=
  if complete then .ok p.report else .error .disorder

def answerText (expected : String) (p : Place) : Except Fault String :=
  match p.target with
  | .scalar _ _ _ text => .ok text
  | _ => .error (p.refuse expected)

def answerInteger (p : Place) : Except Fault Int64 :=
  match p.target with
  | .scalar _ tag style text =>
    if style = .plain ∨ (style = .literal ∧ tag = some (coreTag "int")) then
      match Resolution.integer? text.toList with
      | some n => if Numeral.fitsSigned n then .ok (.ofInt n) else .error (p.refuse "i64")
      | none => .error (p.refuse "i64")
    else .error (p.refuse "i64")
  | _ => .error (p.refuse "i64")

/-- The word of a tag: what stands behind its exclamation mark. -/
def tagWord? (tag : Option String) : Option String :=
  match tag.map String.toList with
  | some ['!'] => some "!"
  | some ('!' :: word) => some (String.ofList word)
  | _ => none

/-- Nothing may stand beside a word that is written as a tag. -/
def answerAlone (p : Place) : Except Fault Unit :=
  match p.target with
  | .scalar _ _ style text =>
    if style = .plain ∧ (text = "" ∨ Resolution.isNull text) then .ok ()
    else .error (p.report (.wrongValue (.text text) "null"))
  | _ => .error (p.refuse "unit")

/-- The way to the map or list around a node. -/
def outside (p : Place) : Route := p.route.drop 1

def answerChoice {α : Type} (words : List (String × α)) (p : Place) : Except Fault α :=
  let chosen (word : String) (route : Route) : Except Fault α :=
    match words.lookup word with
    | some a => .ok a
    | none => .error (.schema (.unknownWord word (words.map (·.1))) route)
  let tagged (tag : Option String) (otherwise : Except Fault α) : Except Fault α :=
    match tagWord? tag with
    | some word => do
      let a ← chosen word p.outside
      p.answerAlone
      .ok a
    | none => otherwise
  let noTag (found : Found) : Except Fault α :=
    .error (p.report (.wrongType found "a YAML tag starting with '!'"))
  match p.target with
  | .scalar _ tag _ text => tagged tag (chosen text p.route)
  | .list _ tag _ _ => tagged tag (noTag .list)
  | .map _ tag _ _ => tagged tag (noTag .map)
  | .reference _ | .nothing | .broken => .error .disorder

/-- A scalar in quotes or in a block is always there. One that is tagged as null has to be
written as null; with any other tag it is there. -/
def answerOptional (p : Place) : Except Fault (Option Place) :=
  match p.target with
  | .scalar _ tag .plain text =>
    match tag with
    | none => .ok (if text = "" ∨ Resolution.isNull text then none else some p)
    | some tag =>
      if tag ≠ coreTag "null" then .ok (some p)
      else if Resolution.isNull text then .ok none
      else .error (.schema (.wrongValue (.text text) "null") p.outside)
  | .nothing => .ok none
  | .broken => .error .disorder
  | _ => .ok (some p)

def item (p : Place) (index : Nat) (v : Node) : Item Place Fault :=
  ⟨{ p with node := v, route := .item index :: p.route }, .ok ()⟩

def answerItems (expected : String) (p : Place) : Except Fault (Items Place Fault) :=
  match p.target with
  | .list _ _ items complete => .ok ⟨items.mapIdx p.item, p.finish complete⟩
  | node => if isLeftOut node then .ok ⟨[], p.finish true⟩ else .error (p.refuse expected)

/-- The key of a member as it shows in a route. -/
def keyText? : Node → Option String
  | .scalar _ _ _ text => some text
  | _ => none

def entry (p : Place) (m : Node × Node) : Entry Place Fault where
  name expected := answerText expected { p with node := m.1 }
  value := { p with node := m.2, route := .member (keyText? m.1) :: p.route }
  atName := p.report
  atValue := p.report

def answerEntries (expected : String) (p : Place) : Except Fault (Entries Place Fault) :=
  match p.target with
  | .map _ _ members complete => .ok ⟨members.map p.entry, p.finish complete⟩
  | node => if isLeftOut node then .ok ⟨[], p.finish true⟩ else .error (p.refuse expected)

end Place

instance : Reading Place Fault where
  text := Place.answerText
  integer := Place.answerInteger
  choice := Place.answerChoice
  optional := Place.answerOptional
  items := Place.answerItems
  entries := Place.answerEntries
  members expected p := .named <$> p.answerEntries expected

/-- Reads the only document of a text. What the schema has against it counts before a disorder
that is met further back. -/
def decode {α : Type} (read : (Cause → Fault) → Place → Except Fault α) (s : String) :
    Except String α :=
  let (root, inOrder) := ofText s
  let result := do
    let a ← read (.schema · []) { node := root, route := [], anchored := root.anchored }
    if inOrder then .ok a else .error .disorder
  result.mapError Fault.message

end Lineup.Yaml
