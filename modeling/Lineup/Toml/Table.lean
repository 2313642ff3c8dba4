/-! Tables while a TOML text is read. A table that is named only on the way to another one may
still be opened by a header of its own, once; one that is built by dotted keys may only be
added to by dotted keys. -/

namespace Lineup.Toml

inductive Node where
  | text (s : String)
  | integer (n : Int64)
  | floating (x : Float)
  | bool (b : Bool)
  | moment (written : String)
  | list (items : List Node)
  | table (entries : List (String × Node))
deriving Repr, Inhabited

/-- What a key stands for so far. A table is `open` as long as it is named only on the way to
another one. The tables of a list are added to by its headers. -/
inductive Part where
  | value (v : Node)
  | table (isOpen dotted : Bool) (members : List (String × Part))
  | tables (elements : List (List (String × Part)))
deriving Inhabited

abbrev Members := List (String × Part)

namespace Part

mutual

def node : Part → Node
  | value v => v
  | table _ _ members => .table (nodes members)
  | tables elements => .list (tableNodes elements)

def nodes : List (String × Part) → List (String × Node)
  | [] => []
  | (key, p) :: ms => (key, p.node) :: nodes ms

def tableNodes : List (List (String × Part)) → List Node
  | [] => []
  | ms :: rest => .table (nodes ms) :: tableNodes rest

end

end Part

namespace Table

/-- Gives another part to a key that is there. -/
def replace (key : String) (p : Part) (ms : Members) : Members :=
  ms.map fun m => if m.1 = key then (key, p) else m

/-- Does something to the table at the end of a way, and makes the tables on it that are not
there. Of a list of tables the last one is meant. With dotted keys the way may lead only
through tables that no header has opened. -/
def descend {α : Type} (dotted : Bool) (act : (dotted : Bool) → Members → Option (α × Members)) :
    (path : List String) → (current : Bool) → Members → Option (α × Members)
  | [], current, ms => act current ms
  | key :: path, _, ms =>
    match ms.lookup key with
    | none => do
      let (a, inner) ← descend dotted act path dotted []
      some (a, ms ++ [(key, .table true dotted inner)])
    | some (.value _) => none
    | some (.tables elements) => do
      let (a, inner) ← descend dotted act path false (← elements.getLast?)
      some (a, replace key (.tables (elements.dropLast ++ [inner])) ms)
    | some (.table isOpen isDotted inner) =>
      if dotted ∧ ¬ isOpen then none
      else do
        let (a, inner) ← descend dotted act path isDotted inner
        some (a, replace key (.table isOpen isDotted inner) ms)

/-- Adds a value under a key that is not there yet. -/
def put (path : List String) (key : String) (v : Node) (ms : Members) : Option Members :=
  let add (dotted : Bool) (ms : Members) : Option (Unit × Members) :=
    if dotted = path.isEmpty ∨ (ms.lookup key).isSome then none
    else some ((), ms ++ [(key, .value v)])
  (descend true add path false ms).map (·.2)

/-- Takes out the table that a header opens, with what is in it already. -/
def takeOut (path : List String) (key : String) (ms : Members) : Option (Members × Members) :=
  let take (_ : Bool) (ms : Members) : Option (Members × Members) :=
    match ms.lookup key with
    | none => some ([], ms)
    | some (.table true false inner) => some (inner, ms.filter (·.1 ≠ key))
    | some _ => none
  descend false take path false ms

/-- Puts a table back behind all others. -/
def putBack (path : List String) (key : String) (inner : Members) (ms : Members) :
    Option Members :=
  let add (_ : Bool) (ms : Members) : Option (Unit × Members) :=
    match ms.lookup key with
    | none => some ((), ms ++ [(key, .table false false inner)])
    | some (.table true _ _) => some ((), replace key (.table false false inner) ms)
    | some _ => none
  (descend false add path false ms).map (·.2)

/-- Adds tables to the list of tables under a key. -/
def extend (path : List String) (key : String) (elements : List Members) (ms : Members) :
    Option Members :=
  let add (_ : Bool) (ms : Members) : Option (Unit × Members) :=
    match ms.lookup key with
    | none => some ((), ms ++ [(key, .tables elements)])
    | some (.tables before) => some ((), replace key (.tables (before ++ elements)) ms)
    | some _ => none
  (descend false add path false ms).map (·.2)

end Table
end Lineup.Toml
