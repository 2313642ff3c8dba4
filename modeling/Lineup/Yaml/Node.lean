import Lineup.Yaml.Tokens

/-! The first document of a YAML text as a tree. A text that cannot be read on is a tree up to
the spot where it goes wrong. -/

namespace Lineup.Yaml

/-- A node may be anchored under a number. A list or a map that is not `complete` goes wrong
behind its last part; `nothing` is the document of a text without any. -/
inductive Node where
  | scalar (anchor : Option Nat) (tag : Option String) (style : Style) (text : String)
  | list (anchor : Option Nat) (tag : Option String) (items : List Node) (complete : Bool)
  | map (anchor : Option Nat) (tag : Option String) (members : List (Node × Node))
    (complete : Bool)
  | reference (target : Nat)
  | nothing
  | broken
deriving Repr, Inhabited

namespace Node

mutual

/-- The anchored nodes in the order in which they begin. -/
def anchored : Node → List (Nat × Node)
  | scalar anchor tag style text => anchor.toList.map (·, scalar anchor tag style text)
  | list anchor tag items complete =>
    anchor.toList.map (·, list anchor tag items complete) ++ anchoredItems items
  | map anchor tag members complete =>
    anchor.toList.map (·, map anchor tag members complete) ++ anchoredMembers members
  | reference _ | nothing | broken => []

def anchoredItems : List Node → List (Nat × Node)
  | [] => []
  | v :: vs => v.anchored ++ anchoredItems vs

def anchoredMembers : List (Node × Node) → List (Nat × Node)
  | [] => []
  | (k, v) :: ms => k.anchored ++ v.anchored ++ anchoredMembers ms

end

/-- A value that is left out. -/
def empty : Node := scalar none none .plain ""

end Node

/-- What is known while a document is read: the handles of tags, and the names of anchors with
the numbers of the nodes that they stand for. -/
structure Reader where
  tokens : Tokens
  handles : List (String × String) := []
  names : List (String × Nat) := []

namespace Reader

def peek (r : Reader) : Option (Token × Reader) := do
  let (token, tokens) ← r.tokens.peek
  some (token, { r with tokens })

def next (r : Reader) : Reader := { r with tokens := r.tokens.next }

/-- The number of a new anchor is the number of names so far, so a name that is used again
shares its new number with the next name. -/
def anchor (r : Reader) : Option String → Option Nat × Reader
  | none => (none, r)
  | some name =>
    let number := r.names.length
    let names := (name, number) :: r.names.filter (·.1 ≠ name)
    (some number, { r with names })

/-- The tag that a handle and a suffix stand for. -/
def resolve (r : Reader) (handle suffix : String) : Option String :=
  if handle = "" then some suffix else (r.handles.lookup handle).map (· ++ suffix)

/-- The anchor and the tag in front of a node, in any order, and the token behind them. -/
def properties (r : Reader) (token : Token) :
    Option (Option String × Option String × Token × Reader) := do
  match token with
  | .anchor name =>
    match ← r.next.peek with
    | (.tag handle suffix, r) =>
      let (token, r) ← r.next.peek
      some (some name, some (← r.resolve handle suffix), token, r)
    | (token, r) => some (some name, none, token, r)
  | .tag handle suffix =>
    match ← r.next.peek with
    | (.anchor name, r) =>
      let (token, r) ← r.next.peek
      some (some name, some (← r.resolve handle suffix), token, r)
    | (token, r) => some (none, some (← r.resolve handle suffix), token, r)
  | token => some (none, none, token, r)

/-- A node, and what is known behind it unless the text goes wrong in it. -/
abbrev Read (α : Type) := α × Option Reader

def isOneOf (token : Token) (l : List Token) : Bool := l.contains token

mutual

/-- Reads a node. Blocks are allowed outside of brackets, and a list with dashes at the
indentation of the map around it is allowed as a value in it. -/
def readNode (inBlock dashes : Bool) : (fuel : Nat) → Reader → Read Node
  | 0, _ => (.broken, none)
  | fuel + 1, r =>
    match r.peek with
    | none => (.broken, none)
    | some (.reference name, r) =>
      match r.names.lookup name with
      | some number => (.reference number, some r.next)
      | none => (.broken, none)
    | some (token, r) =>
      match r.properties token with
      | none => (.broken, none)
      | some (name, tag, token, r) =>
        let (anchor, known) := r.anchor name
        let asList (read : Reader → Read (List Node)) (r : Reader) : Read Node :=
          let (items, rest) := read r
          (.list anchor tag items rest.isSome, rest)
        let asMap (read : Reader → Read (List (Node × Node))) (r : Reader) : Read Node :=
          let (members, rest) := read r
          (.map anchor tag members rest.isSome, rest)
        match token with
        | .scalar style text =>
          (.scalar anchor (tag.filter (· ≠ "!")) style text, some known.next)
        | .flowListStart => asList (readFlowItems true fuel) known.next
        | .flowMapStart => asMap (readFlowMembers true fuel) known.next
        | token =>
          if dashes ∧ token = .blockItem then asList (readDashes fuel) known
          else if inBlock ∧ token = .blockList then asList (readBlockItems fuel) known.next
          else if inBlock ∧ token = .blockMap then asMap (readBlockMembers fuel) known.next
          else if name.isSome ∨ tag.isSome then (.scalar anchor tag .plain "", some known)
          else (.broken, none)

/-- Reads a node, or nothing if one of these tokens comes next. -/
def readNodeUnless (ends : List Token) (inBlock dashes : Bool) :
    (fuel : Nat) → Reader → Read Node
  | 0, _ => (.broken, none)
  | fuel + 1, r =>
    match r.peek with
    | none => (.broken, none)
    | some (token, r) =>
      if isOneOf token ends then (.empty, some r) else readNode inBlock dashes fuel r

/-- Reads items up to the end of their block. -/
def readBlockItems : (fuel : Nat) → Reader → Read (List Node)
  | 0, _ => ([], none)
  | fuel + 1, r =>
    match r.peek with
    | some (.blockItem, r) =>
      let (v, rest) := readNodeUnless [.blockItem, .blockEnd] true false fuel r.next
      match rest with
      | none => ([v], none)
      | some r =>
        let (vs, rest) := readBlockItems fuel r
        (v :: vs, rest)
    | some (.blockEnd, r) => ([], some r.next)
    | _ => ([], none)

/-- Reads items as long as there are dashes. -/
def readDashes : (fuel : Nat) → Reader → Read (List Node)
  | 0, _ => ([], none)
  | fuel + 1, r =>
    match r.peek with
    | none => ([], none)
    | some (.blockItem, r) =>
      let (v, rest) :=
        readNodeUnless [.blockItem, .key, .value, .blockEnd] true false fuel r.next
      match rest with
      | none => ([v], none)
      | some r =>
        let (vs, rest) := readDashes fuel r
        (v :: vs, rest)
    | some (_, r) => ([], some r)

/-- Reads members up to the end of their block. -/
def readBlockMembers : (fuel : Nat) → Reader → Read (List (Node × Node))
  | 0, _ => ([], none)
  | fuel + 1, r =>
    let ends : List Token := [.key, .value, .blockEnd]
    match r.peek with
    | some (.key, r) =>
      let (k, rest) := readNodeUnless ends true true fuel r.next
      let (v, rest) := readValue ends true fuel rest
      match rest with
      | none => ([(k, v)], none)
      | some r =>
        let (ms, rest) := readBlockMembers fuel r
        ((k, v) :: ms, rest)
    | some (.blockEnd, r) => ([], some r.next)
    | _ => ([], none)

/-- Reads the value behind a key, which may be left out. -/
def readValue (ends : List Token) (inBlock : Bool) :
    (fuel : Nat) → Option Reader → Read Node
  | 0, _ => (.broken, none)
  | _ + 1, none => (.broken, none)
  | fuel + 1, some r =>
    match r.peek with
    | none => (.broken, none)
    | some (.value, r) => readNodeUnless ends inBlock inBlock fuel r.next
    | some (_, r) => (.empty, some r)

/-- Reads items between brackets. -/
def readFlowItems (first : Bool) : (fuel : Nat) → Reader → Read (List Node)
  | 0, _ => ([], none)
  | fuel + 1, r =>
    match r.peek with
    | none => ([], none)
    | some (.flowListEnd, r) => ([], some r.next)
    | some (token, r) =>
      if first then readFlowItem fuel r
      else if token = .flowNext then readFlowItem fuel r.next
      else ([], none)

/-- Reads one item and those behind it. A key begins a map of one member. -/
def readFlowItem : (fuel : Nat) → Reader → Read (List Node)
  | 0, _ => ([], none)
  | fuel + 1, r =>
    match r.peek with
    | none => ([], none)
    | some (.flowListEnd, r) => ([], some r.next)
    | some (token, r) =>
      let (v, rest) :=
        if token = .key then
          let (m, rest) := readPair fuel r.next
          (.map none none m rest.isSome, rest)
        else readNode false false fuel r
      match rest with
      | none => ([v], none)
      | some r =>
        let (vs, rest) := readFlowItems false fuel r
        (v :: vs, rest)

/-- Reads a key and its value. A key that is left out takes the token behind it with it. -/
def readPair : (fuel : Nat) → Reader → Read (List (Node × Node))
  | 0, _ => ([], none)
  | fuel + 1, r =>
    match r.peek with
    | none => ([], none)
    | some (token, r) =>
      let (k, rest) :=
        if isOneOf token [.value, .flowNext, .flowListEnd] then (.empty, some r.next)
        else readNode false false fuel r
      let (v, rest) := readValue [.flowNext, .flowListEnd] false fuel rest
      ([(k, v)], rest)

/-- Reads members between brackets. -/
def readFlowMembers (first : Bool) : (fuel : Nat) → Reader → Read (List (Node × Node))
  | 0, _ => ([], none)
  | fuel + 1, r =>
    match r.peek with
    | none => ([], none)
    | some (.flowMapEnd, r) => ([], some r.next)
    | some (token, r) =>
      if first then readFlowMember fuel r
      else if token = .flowNext then readFlowMember fuel r.next
      else ([], none)

/-- Reads one member and those behind it. A node that is no key has no value. -/
def readFlowMember : (fuel : Nat) → Reader → Read (List (Node × Node))
  | 0, _ => ([], none)
  | fuel + 1, r =>
    let ends : List Token := [.flowNext, .flowMapEnd]
    match r.peek with
    | none => ([], none)
    | some (.flowMapEnd, r) => ([], some r.next)
    | some (token, r) =>
      let (k, v, rest) : Node × Read Node :=
        if token = .key then
          let (k, rest) := readNodeUnless (.value :: ends) false false fuel r.next
          (k, readValue ends false fuel rest)
        else
          match readNode false false fuel r with
          | (k, none) => (k, .broken, none)
          | (k, some r) => (k, if r.peek.isSome then (.empty, some r) else (.broken, none))
      match rest with
      | none => ([(k, v)], none)
      | some r =>
        let (ms, rest) := readFlowMembers false fuel r
        ((k, v) :: ms, rest)

end

/-- Reads the directives of a document. -/
def readDirectives : (fuel : Nat) → (versionSeen : Bool) → Reader → Option Reader
  | 0, _, _ => none
  | fuel + 1, versionSeen, r => do
    match ← r.peek with
    | (.version major minor, r) =>
      if versionSeen ∨ major ≠ 1 ∨ (minor ≠ 1 ∧ minor ≠ 2) then none
      else readDirectives fuel true r.next
    | (.tagHandle handle lead, r) =>
      if (r.handles.lookup handle).isSome then none
      else readDirectives fuel versionSeen { r.next with handles := (handle, lead) :: r.handles }
    | (_, r) => some r

/-- The handles that every document knows. -/
def commonHandles : List (String × String) := [("!", "!"), ("!!", "tag:yaml.org,2002:")]

def isStart (token : Token) : Bool :=
  match token with
  | .version _ _ | .tagHandle _ _ | .documentStart => true
  | _ => false

/-- Whether the text ends behind its first document. -/
def endsHere : (fuel : Nat) → Reader → Bool
  | 0, _ => false
  | fuel + 1, r =>
    match r.peek with
    | some (.documentEnd, r) => endsHere fuel r.next
    | some (.streamEnd, _) => true
    | _ => false

/-- Reads the first document and tells whether the text is in order and ends behind it. -/
def readDocument (fuel : Nat) (r : Reader) : Node × Bool :=
  let close : Read Node → Node × Bool
    | (v, some r) => (v, r.endsHere fuel)
    | (v, none) => (v, false)
  match r.peek.bind fun (_, r) => r.next.peek with
  | none => (.broken, false)
  | some (.streamEnd, _) => (.nothing, true)
  | some (token, r) =>
    if isStart token then
      match (readDirectives fuel false r).bind fun r => r.peek with
      | some (.documentStart, r) =>
        match { r.next with handles := r.handles ++ commonHandles }.peek with
        | none => (.broken, false)
        | some (token, r) =>
          if isStart token ∨ token = .documentEnd ∨ token = .streamEnd then
            close (.empty, some r)
          else close (readNode true false fuel r)
      | _ => (.broken, false)
    else close (readNode true false fuel { r with handles := commonHandles })

end Reader

/-- The first document of a text, and whether the text is in order and ends behind it. -/
def ofText (s : String) : Node × Bool :=
  if s.toList.all isAllowed then
    Reader.readDocument (8 * s.toList.length + 16) { tokens := .ofText s }
  else (.broken, false)

end Lineup.Yaml
