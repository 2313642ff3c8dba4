import Lineup.World.Basic

/-! A world that is given as a whole: a tree of files below the working directory, and
variables. -/

namespace Lineup

inductive FileTree where
  | file (content : ByteArray)
  | directory (entries : List (String × FileTree))
deriving Inhabited

namespace FileTree

abbrev Entries := List (String × FileTree)

def parts (p : Path) : List String := p.parts.map String.ofList

/-- Puts a file or a directory at the end of a way, and makes the directories on it. -/
def put (leaf : FileTree) : (way : List String) → Entries → Entries
  | [], es => es
  | [name], es =>
    match es.lookup name, leaf with
    | some (.directory inner), .directory [] => es.filter (·.1 ≠ name) ++ [(name, directory inner)]
    | _, leaf => es.filter (·.1 ≠ name) ++ [(name, leaf)]
  | name :: way, es =>
    let inner :=
      match es.lookup name with
      | some (.directory inner) => inner
      | _ => []
    es.filter (·.1 ≠ name) ++ [(name, directory (put leaf way inner))]

/-- The files and directories at some paths; a directory has no content. -/
def ofList (l : List (Path × Option ByteArray)) : Entries :=
  l.foldl (fun es (p, content) =>
    let way := (parts p).filter fun part => part ≠ "" ∧ part ≠ "."
    put (content.elim (directory []) file) way es) []

/-- Goes a way from a directory. The directories on the way so far are held innermost first. -/
def walk : (inside : List Entries) → (way : List String) → Except ReadProblem FileTree
  | inside, [] => .ok (directory (inside.headD []))
  | inside, part :: way =>
    if part = "" ∨ part = "." then walk inside way
    else if part = ".." then
      match inside with
      | _ :: outer :: more => walk (outer :: more) way
      | inside => walk inside way
    else
      match (inside.headD []).lookup part with
      | none => .error .noSuchFile
      | some (.directory inner) => walk (inner :: inside) way
      | some (.file content) => if way.isEmpty then .ok (file content) else .error .notDirectory

/-- The tree that holds the working directory under the name that it always has. -/
def root (working : Entries) : Entries :=
  [("proc", directory [("self", directory [("cwd", directory working)])])]

def find (working : Entries) (p : Path) : Except ReadProblem FileTree :=
  if p.text.toList.contains '\x00' then .error .nulInPath
  else if p.text = "" then .error .noSuchFile
  else if p.isAbsolute then walk [root working] (parts p)
  else walk [working, []] (parts p)

def read (working : Entries) (p : Path) : Except ReadProblem String :=
  match find working p with
  | .error problem => .error problem
  | .ok (directory _) => .error .isDirectory
  | .ok (file content) =>
    match String.fromUTF8? content with
    | some text => .ok text
    | none => .error .notText

def isFile (working : Entries) (p : Path) : Bool :=
  match find working p with
  | .ok (file _) => true
  | _ => false

/-- The world of a tree, with a log that leaves everything out. -/
def world (working : Entries) (given : List (String × String)) : World Id where
  variableOf name := given.lookup name
  configDir := World.configDirBy fun name => given.lookup name
  read := read working
  isFile := isFile working
  isThere p := (find working p).isOk
  note _ := ()
  lines _ _ := some ""

end FileTree
end Lineup
