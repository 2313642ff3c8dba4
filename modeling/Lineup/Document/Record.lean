import Lineup.Document.Reading
import Lineup.Path

/-! Records of a schema: named members, each with a reader, and the rules on missing, unknown
and repeated ones. -/

namespace Lineup.Document

variable {ν ε σ α : Type} [Reading ν ε]

/-- A member of a record whose parts are gathered in `σ`. A `needed` member may not be missing
from a map, and a `placed` one may not be missing from the end of a list. -/
structure Member (ν ε σ : Type) where
  name : String
  read : ν → Except ε (σ → σ)
  needed : Bool
  placed : Bool

/-- A `closed` record refuses members that it does not know. -/
structure Record (ν ε σ : Type) where
  name : String
  members : List (Member ν ε σ)
  closed : Bool

namespace Record

def names (r : Record ν ε σ) : List String := r.members.map (·.name)

/-- Reads the members of a map in their order and tells which ones there were. -/
def readEntries (r : Record ν ε σ) :
    (seen : List String) → σ → List (Entry ν ε) → Except ε (List String × σ)
  | seen, s, [] => .ok (seen, s)
  | seen, s, e :: rest => do
    let name ← e.name "field identifier"
    match r.members.find? (·.name = name) with
    | none =>
      if r.closed then .error (e.atName (.unknownMember name r.names))
      else readEntries r seen s rest
    | some m =>
      if name ∈ seen then .error (e.atName (.repeatedMember name))
      else
        let change ← m.read e.value
        readEntries r (name :: seen) (change s) rest

def readNamed (r : Record ν ε σ) (s : σ) (es : Entries ν ε) : Except ε σ := do
  let (seen, s) ← r.readEntries [] s es.entries
  let report ← es.finish
  match r.members.find? fun m => m.needed ∧ m.name ∉ seen with
  | some m => .error (report (.missingMember m.name))
  | none => .ok s

def lengthText (r : Record ν ε σ) : String :=
  let n := r.members.length
  s!"struct {r.name} with {n} element" ++ if n = 1 then "" else "s"

/-- Reads the elements of a list as the members in the order of the schema. The first argument
tells what is met if the list is expected to end here. -/
def readItems (r : Record ν ε σ) (finish : Except ε (Cause → ε)) (index : Nat) :
    (close : Except ε Unit) → σ → List (Member ν ε σ) → List (Item ν ε) → Except ε σ
  | close, s, [], _ => do
    close
    .ok s
  | _, s, m :: ms, item :: rest => do
    let change ← m.read item.value
    readItems r finish (index + 1) item.close (change s) ms rest
  | _, s, m :: ms, [] => do
    let report ← finish
    if m.placed then .error (report (.wrongLength index r.lengthText))
    else readItems r finish (index + 1) (.ok ()) s ms []

def read (r : Record ν ε σ) (s : σ) (v : ν) : Except ε σ := do
  match ← Reading.members ("struct " ++ r.name) v with
  | .named es => r.readNamed s es
  | .listed items => r.readItems items.finish 0 (.ok ()) s r.members items.items

end Record

/-- Reads a path, which is written as text. -/
def readPath (v : ν) : Except ε Path := (⟨·⟩) <$> Reading.text "path string" v

/-- Reads a value that may be given as absent. -/
def readOptional (read : ν → Except ε α) (v : ν) : Except ε (Option α) := do
  match ← Reading.optional v with
  | some w => some <$> read w
  | none => .ok none

/-- Reads every element of a list. -/
def readList (read : ν → Except ε α) (v : ν) : Except ε (List α) := do
  let items ← Reading.items "a sequence" v
  let values ← items.items.mapM fun item => read item.value
  let _ ← items.finish
  .ok values

end Lineup.Document
