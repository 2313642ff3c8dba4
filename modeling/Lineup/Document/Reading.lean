import Lineup.Document.Fault

/-! The questions that a schema asks about a document. A format answers them for its nodes and
says how it reports a cause; the schema is then written once for all formats.

Answers come in the order of the text: a fault further back in a document is met only by a
question that reaches it. -/

namespace Lineup.Document

/-- One member of a map. A cause may be noticed when only the name is known, or when the value
has been read. -/
structure Entry (ν ε : Type) where
  name : (expected : String) → Except ε String
  value : ν
  atName : Cause → ε
  atValue : Cause → ε

/-- The members of a map in their order, and what is met behind the last of them. -/
structure Entries (ν ε : Type) where
  entries : List (Entry ν ε)
  finish : Except ε (Cause → ε)

/-- An element of a list, and what is met if the list is expected to end behind it. -/
structure Item (ν ε : Type) where
  value : ν
  close : Except ε Unit

/-- The elements of a list in their order, and what is met behind the last of them. -/
structure Items (ν ε : Type) where
  items : List (Item ν ε)
  finish : Except ε (Cause → ε)

/-- A record is written as a map of its members or as the list of their values. -/
inductive Members (ν ε : Type) where
  | named (entries : Entries ν ε)
  | listed (items : Items ν ε)

class Reading (ν : Type) (ε : outParam Type) where
  text : (expected : String) → ν → Except ε String
  integer : ν → Except ε Int64
  /-- One of a few words, as the value that stands beside it. -/
  choice : {α : Type} → List (String × α) → ν → Except ε α
  /-- The value, unless it is given as absent. -/
  optional : ν → Except ε (Option ν)
  items : (expected : String) → ν → Except ε (Items ν ε)
  entries : (expected : String) → ν → Except ε (Entries ν ε)
  members : (expected : String) → ν → Except ε (Members ν ε)

end Lineup.Document
