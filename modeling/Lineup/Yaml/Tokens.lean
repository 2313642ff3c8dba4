import Lineup.Yaml.Token
import Lineup.Yaml.Scalar.Plain
import Lineup.Yaml.Scalar.Quoted
import Lineup.Yaml.Scalar.Block

/-! The tokens of a YAML text, read no further than they are asked for. Whether a word is the
key of a map shows only at the colon behind it, so tokens wait in a queue as long as a key
may still have to be put in front of them. A text that cannot be read on is `none`. -/

namespace Lineup.Yaml

/-- A word that may turn out to be a key: where it begins, and how many tokens precede it. At
the indentation of a block it has to be one. -/
structure PendingKey where
  possible : Bool := false
  required : Bool := false
  number : Nat := 0
  index : Nat := 0
  line : Nat := 0
  column : Nat := 0
deriving Repr, Inhabited

/-- `keys` holds a pending key for each open bracket and one for the text outside of brackets,
innermost first; `outer` holds the indentations of the enclosing blocks. -/
structure Tokens where
  cursor : Cursor
  queue : List Token := []
  taken : Nat := 0
  started : Bool := false
  indent : Int := -1
  outer : List Int := []
  keyAllowed : Bool := false
  keys : List PendingKey := []
deriving Repr, Inhabited

namespace Tokens

def ofText (s : String) : Tokens := { cursor := { rest := s.toList } }

/-- Whether brackets are open. -/
def flow (t : Tokens) : Bool := 1 < t.keys.length

def put (t : Tokens) (token : Token) : Tokens := { t with queue := t.queue ++ [token] }

/-- Puts a token in front of the one with this number. -/
def putAt (t : Tokens) (number : Nat) (token : Token) : Tokens :=
  { t with queue := t.queue.insertIdx (number - t.taken) token }

def moveTo (t : Tokens) (cursor : Cursor) : Tokens := { t with cursor }

def skip (t : Tokens) (n : Nat) : Tokens := t.moveTo (t.cursor.advance n)

def allowKey (t : Tokens) (allowed : Bool) : Tokens := { t with keyAllowed := allowed }

/-- A key stands on one line and within 1024 characters. -/
def isStale (t : Tokens) (k : PendingKey) : Bool :=
  k.possible && (k.line < t.cursor.line || k.index + 1024 < t.cursor.index)

def dropStaleKeys (t : Tokens) : Option Tokens :=
  if t.keys.any fun k => t.isStale k && k.required then none
  else
    some { t with
      keys := t.keys.map fun k => if t.isStale k then { k with possible := false } else k }

/-- The innermost pending key can no longer be one. -/
def dropKey (t : Tokens) : Option Tokens :=
  match t.keys with
  | [] => some t
  | k :: keys =>
    if k.possible ∧ k.required then none
    else some { t with keys := { k with possible := false } :: keys }

/-- What begins here may be a key, if a key may stand here. -/
def saveKey (t : Tokens) : Option Tokens :=
  if ¬ t.keyAllowed then some t
  else do
    let t ← t.dropKey
    let key : PendingKey := {
      possible := true
      required := ¬ t.flow ∧ t.indent = t.cursor.column
      number := t.taken + t.queue.length
      index := t.cursor.index
      line := t.cursor.line
      column := t.cursor.column }
    some { t with keys := key :: t.keys.drop 1 }

/-- Opens a block at a column that is deeper than the current block. -/
def openBlock (t : Tokens) (column : Nat) (number : Option Nat) (token : Token) : Tokens :=
  if t.flow ∨ ¬ t.indent < column then t
  else
    let t := { t with indent := column, outer := t.indent :: t.outer }
    match number with
    | some n => t.putAt n token
    | none => t.put token

/-- Closes the blocks that are deeper than a column. -/
def closeBlocks (t : Tokens) (column : Int) : Tokens :=
  if t.flow then t else close t.indent t.outer []
where
  close (indent : Int) (outer : List Int) (ends : List Token) : Tokens :=
    match outer with
    | [] => { t with queue := t.queue ++ ends, indent, outer := [] }
    | next :: rest =>
      if column < indent then close next rest (.blockEnd :: ends)
      else { t with queue := t.queue ++ ends, indent, outer }

/-- Skips blanks, comments and line breaks. A tab may stand where no key may. -/
def skipGaps : (fuel : Nat) → Tokens → Tokens
  | 0, t => t
  | fuel + 1, t =>
    let c := if t.cursor.index = 0 ∧ t.cursor.isAt '\uFEFF' then t.cursor.advance 1 else t.cursor
    let tabs := t.flow || ! t.keyAllowed
    let c := c.skipWhile fun char => char = ' ' || (tabs && char = '\t')
    let c := if c.isAt '#' then c.skipWhile (! isBreak ·) else c
    match c.lineBreak? with
    | some (_, next) =>
      let t := t.moveTo next
      skipGaps fuel (if t.flow then t else t.allowKey true)
    | none => t.moveTo c

def endOfStream (t : Tokens) : Option Tokens := do
  let c := t.cursor
  let t := t.moveTo (if c.column = 0 then c else { c with line := c.line + 1, column := 0 })
  let t ← (t.closeBlocks (-1)).dropKey
  some ((t.allowKey false).put .streamEnd)

def directive (t : Tokens) : Option Tokens := do
  let t ← (t.closeBlocks (-1)).dropKey
  let (token, c) ← Token.readDirective (t.cursor.advance 1)
  some (((t.allowKey false).put token).moveTo c)

def documentMark (t : Tokens) (token : Token) : Option Tokens := do
  let t ← (t.closeBlocks (-1)).dropKey
  some (((t.allowKey false).put token).skip 3)

def openBracket (t : Tokens) (token : Token) : Option Tokens := do
  let t ← t.saveKey
  some ((({ t with keys := {} :: t.keys }.allowKey true).put token).skip 1)

def closeBracket (t : Tokens) (token : Token) : Option Tokens := do
  let t ← t.dropKey
  let keys := if t.flow then t.keys.drop 1 else t.keys
  some ((({ t with keys }.allowKey false).put token).skip 1)

def comma (t : Tokens) : Option Tokens := do
  let t ← t.dropKey
  some (((t.allowKey true).put .flowNext).skip 1)

/-- A dash. In a block it may stand only where a key may. -/
def dash (t : Tokens) : Option Tokens := do
  if ¬ t.flow ∧ ¬ t.keyAllowed then none
  else
    let t ← (t.openBlock t.cursor.column none .blockList).dropKey
    some (((t.allowKey true).put .blockItem).skip 1)

/-- A question mark in front of a key. -/
def question (t : Tokens) : Option Tokens := do
  if ¬ t.flow ∧ ¬ t.keyAllowed then none
  else
    let t ← (t.openBlock t.cursor.column none .blockMap).dropKey
    some (((t.allowKey (! t.flow)).put .key).skip 1)

/-- A colon. It makes a key of the word in front of it, if that may be one. -/
def colon (t : Tokens) : Option Tokens :=
  match t.keys with
  | k :: keys =>
    if k.possible then
      let t := (t.putAt k.number .key).openBlock k.column (some k.number) .blockMap
      let t := { t with keys := { k with possible := false } :: keys }
      some (((t.allowKey false).put .value).skip 1)
    else plainColon
  | [] => plainColon
where
  plainColon : Option Tokens :=
    if ¬ t.flow ∧ ¬ t.keyAllowed then none
    else
      let t := t.openBlock t.cursor.column none .blockMap
      some (((t.allowKey (! t.flow)).put .value).skip 1)

def name (t : Tokens) (token : String → Token) : Option Tokens := do
  let t ← t.saveKey
  let (name, c) ← Token.readAnchor (t.cursor.advance 1)
  some (((t.allowKey false).put (token name)).moveTo c)

def tag (t : Tokens) : Option Tokens := do
  let t ← t.saveKey
  let (token, c) ← Token.readTag t.flow t.cursor
  some (((t.allowKey false).put token).moveTo c)

def block (t : Tokens) (folded : Bool) : Option Tokens := do
  let t ← t.dropKey
  let (text, c) ← Scalar.readBlock folded t.indent (t.cursor.advance 1)
  let style := if folded then .folded else .literal
  some (((t.allowKey true).put (.scalar style (String.ofList text))).moveTo c)

def quoted (t : Tokens) (quote : Scalar.Quote) : Option Tokens := do
  let t ← t.saveKey
  let c := t.cursor.advance 1
  let (text, c) ← Scalar.readQuoted quote (c.rest.length + 1) [] c
  some (((t.allowKey false).put (.scalar .quoted (String.ofList text))).moveTo c)

def plain (t : Tokens) : Option Tokens := do
  let t ← t.saveKey
  let c := t.cursor
  let (text, newLine, c) ←
    Scalar.readPlain t.flow (t.indent + 1).toNat (c.rest.length + 1) [] {} c
  some (((t.allowKey newLine).put (.scalar .plain (String.ofList text))).moveTo c)

/-- Whether a scalar without quotes may begin with this character. -/
def beginsPlain (flow : Bool) (c : Char) (rest : List Char) : Bool :=
  ! (isBlank c || isBreak c || c ∈ ['-', '?', ':', ',', '[', ']', '{', '}', '#', '&', '*', '!',
    '|', '>', '\'', '"', '%', '@', '`'])
  || (c = '-' && ! rest.head?.any isBlank)
  || (! flow && (c = '?' || c = ':') && ! atGap rest)

/-- Reads the next token of the text and all that comes with it. -/
def fetch (t : Tokens) : Option Tokens := do
  if ¬ t.started then
    some ({ t with started := true, keyAllowed := true, keys := [{}] }.put .streamStart)
  else
    let t ← (skipGaps (t.cursor.rest.length + 1) t).dropStaleKeys
    let t := t.closeBlocks t.cursor.column
    match t.cursor.rest with
    | [] => t.endOfStream
    | c :: rest =>
      let gap := atGap rest
      if t.cursor.column = 0 ∧ c = '%' then t.directive
      else if t.cursor.atMark then
        t.documentMark (if c = '-' then .documentStart else .documentEnd)
      else if c = '[' then t.openBracket .flowListStart
      else if c = '{' then t.openBracket .flowMapStart
      else if c = ']' then t.closeBracket .flowListEnd
      else if c = '}' then t.closeBracket .flowMapEnd
      else if c = ',' then t.comma
      else if c = '-' ∧ gap then t.dash
      else if c = '?' ∧ (t.flow ∨ gap) then t.question
      else if c = ':' ∧ (t.flow ∨ gap) then t.colon
      else if c = '*' then t.name .reference
      else if c = '&' then t.name .anchor
      else if c = '!' then t.tag
      else if c = '|' ∧ ¬ t.flow then t.block false
      else if c = '>' ∧ ¬ t.flow then t.block true
      else if c = '\'' then t.quoted .single
      else if c = '"' then t.quoted .double
      else if beginsPlain t.flow c rest then t.plain
      else none

/-- Reads on until the first token of the queue can no longer turn out to be a key. -/
def fill : (fuel : Nat) → Tokens → Option Tokens
  | 0, _ => none
  | fuel + 1, t => do
    if t.queue = [] then fill fuel (← t.fetch)
    else
      let t ← t.dropStaleKeys
      if t.keys.any fun k => k.possible && k.number = t.taken then fill fuel (← t.fetch)
      else some t

/-- The next token, which stays in the queue. A token that is known to come next is not
looked at again. -/
def peek (t : Tokens) : Option (Token × Tokens) := do
  let t ← fill (t.cursor.rest.length + 3) t
  some (← t.queue.head?, t)

def next (t : Tokens) : Tokens := { t with queue := t.queue.drop 1, taken := t.taken + 1 }

end Tokens
end Lineup.Yaml
