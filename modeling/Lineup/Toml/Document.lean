import Lineup.Toml.Value

/-! Whole TOML texts: headers of tables, and keys with their values. -/

namespace Lineup.Toml

/-- Where keys belong: the table of the text itself, or the one under the last header, which
may be an element of a list of tables. -/
inductive Header where
  | top
  | table (path : List String) (key : String)
  | element (path : List String) (key : String)

/-- `root` holds what is finished, and `current` the table that is being read. -/
structure Draft where
  root : Members := []
  header : Header := .top
  current : Members := []

namespace Draft

/-- Puts the current table where it belongs. -/
def finish (d : Draft) : Option Members :=
  match d.header with
  | .top => some d.current
  | .table path key => Table.putBack path key d.current d.root
  | .element path key => Table.extend path key [d.current] d.root

def openTable (d : Draft) (path : List String) (key : String) : Option Draft := do
  let (current, root) ← Table.takeOut path key (← d.finish)
  some { root, header := .table path key, current }

def openElement (d : Draft) (path : List String) (key : String) : Option Draft := do
  let root ← Table.extend path key [] (← d.finish)
  some { root, header := .element path key }

/-- Reads a header behind its opening bracket, up to the end of its line. -/
def readHeader (d : Draft) (rest : Rest) : Option (Draft × Rest) := do
  match rest with
  | '[' :: rest =>
    match ← readKey rest with
    | (path, key, ']' :: ']' :: rest) => some (← d.openElement path key, ← endLine? rest)
    | _ => none
  | rest =>
    match ← readKey rest with
    | (path, key, ']' :: rest) => some (← d.openTable path key, ← endLine? rest)
    | _ => none

/-- Reads a key with its value, up to the end of its line. -/
def readEntry (d : Draft) (rest : Rest) : Option (Draft × Rest) := do
  match ← readKey rest with
  | (path, key, '=' :: rest) =>
    let (v, rest) ← readValue (depthLimit - 1) (skipBlank rest)
    some ({ d with current := ← Table.put path key v d.current }, ← endLine? rest)
  | _ => none

/-- Reads line by line. -/
def readLines : (fuel : Nat) → Draft → Rest → Option Members
  | 0, _, _ => none
  | fuel + 1, d, rest =>
    match skipBlank rest with
    | [] => d.finish
    | '[' :: rest => do
      let (d, rest) ← d.readHeader rest
      readLines fuel d rest
    | c :: rest =>
      if c = '#' ∨ c = '\n' ∨ c = '\r' then do readLines fuel d (← endLine? (c :: rest))
      else do
        let (d, rest) ← d.readEntry (c :: rest)
        readLines fuel d rest

end Draft

/-- The table that a text stands for. A byte order mark in front of it does not count. -/
def ofText? (s : String) : Option Node :=
  let text :=
    match s.toList with
    | '\uFEFF' :: rest => rest
    | rest => rest
  (Draft.readLines (text.length + 1) {} text).map fun ms => .table (Part.nodes ms)

end Lineup.Toml
