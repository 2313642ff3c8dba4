import Lineup.Command.Run

/-! The arguments of a call. They are read from left to right, and the first thing that decides
the call counts: a fault, or a request for help or for the version. -/

namespace Lineup

/-- What a call asks for. -/
inductive Call where
  | run (c : Command)
  | version
  | help
  | misuse
deriving DecidableEq, Repr

namespace Call

/-- What the options of a command have said so far. -/
structure Options where
  file : Option Path := none
  testFiles : Option Path := none
  json : Bool := false
  name : Option String := none
deriving DecidableEq, Repr

/-- An option that takes a path. -/
structure PathFlag where
  set : Options → Path → Options
  get : Options → Option Path

/-- An option of a command: the switch to JSON, or an option that takes a path. -/
inductive Flag where
  | switch
  | path (f : PathFlag)

/-- What may stand on the command line of a command. -/
structure Grammar where
  long : List (String × Flag)
  short : List (Char × Flag)
  named : Bool
  command : Options → Command

def fileFlag : PathFlag := ⟨fun o p => { o with file := some p }, (·.file)⟩

def testFilesFlag : PathFlag := ⟨fun o p => { o with testFiles := some p }, (·.testFiles)⟩

def compile : Grammar where
  long := [("file", .path fileFlag), ("json", .switch)]
  short := [('f', .path fileFlag)]
  named := false
  command o := .compile o.file o.json

def presets : Grammar where
  long := [("test-files", .path testFilesFlag), ("json", .switch)]
  short := []
  named := true
  command o := .presets o.name o.testFiles o.json

def locate : Grammar where
  long := []
  short := []
  named := false
  command _ := .locate

/-- Gives an option its path, which may neither be empty nor given twice. -/
def PathFlag.give (f : PathFlag) (o : Options) (value : String) : Option Options :=
  if (f.get o).isSome ∨ value = "" then none else some (f.set o ⟨value⟩)

/-- A text that may be the value of an option or a name, rather than an option. -/
def isValue (arg : String) : Bool := arg.toList.head? ≠ some '-' || arg = "-"

/-- Splits an argument at its first equals sign. -/
def splitValue (cs : List Char) : String × Option String :=
  match cs.dropWhile (· ≠ '=') with
  | [] => (String.ofList cs, none)
  | _ :: value => (String.ofList (cs.takeWhile (· ≠ '=')), some (String.ofList value))

def setName (g : Grammar) (o : Options) (name : String) : Option Options :=
  if g.named ∧ o.name.isNone then some { o with name := some name } else none

/-- What one argument of a command leads to: the end of the reading, other options, an option
that waits for its path, or nothing but names from here on. -/
inductive Step where
  | ends (c : Call)
  | goesOn (o : Options)
  | waits (f : PathFlag)
  | namesOnly

def Step.ofOptions : Option Options → Step
  | some o => goesOn o
  | none => ends .misuse

/-- An option that is written out, without its dashes. -/
def readLong (g : Grammar) (o : Options) (cs : List Char) : Step :=
  let (name, value) := splitValue cs
  match g.long.lookup name, value with
  | some (.path f), some value => .ofOptions (f.give o value)
  | some (.path f), none => .waits f
  | some .switch, none => if o.json then .ends .misuse else .goesOn { o with json := true }
  | some .switch, some _ => .ends .misuse
  | none, none => .ends (if name = "help" then .help else .misuse)
  | none, some _ => .ends .misuse

/-- An option of one letter. What follows the letter, perhaps behind an equals sign, is its
path. -/
def readShort (g : Grammar) (o : Options) (c : Char) (cs : List Char) : Step :=
  match g.short.lookup c, cs with
  | some (.path f), [] => .waits f
  | some (.path f), '=' :: value => .ofOptions (f.give o (String.ofList value))
  | some (.path f), value => .ofOptions (f.give o (String.ofList value))
  | some .switch, _ => .ends .misuse
  | none, _ => .ends (if c = 'h' then .help else .misuse)

def readArgument (g : Grammar) (o : Options) (arg : String) : Step :=
  match arg.toList with
  | ['-', '-'] => .namesOnly
  | '-' :: '-' :: cs => readLong g o cs
  | '-' :: c :: cs => readShort g o c cs
  | _ => .ofOptions (setName g o arg)

def finish (g : Grammar) : Option Options → Call
  | some o => .run (g.command o)
  | none => .misuse

/-- Reads the arguments of a command, of which the first may be the path that an option waits
for. -/
def readCommand (g : Grammar) : (waiting : Option PathFlag) → Options → List String → Call
  | none, o, [] => finish g (some o)
  | some _, _, [] => .misuse
  | some f, o, value :: args =>
    match if isValue value then f.give o value else none with
    | some o => readCommand g none o args
    | none => .misuse
  | none, o, arg :: args =>
    match readArgument g o arg with
    | .ends c => c
    | .goesOn o => readCommand g none o args
    | .waits f => readCommand g (some f) o args
    | .namesOnly => finish g (args.foldlM (setName g) o)

def grammars : List (String × Grammar) :=
  [("compile", compile), ("presets", presets), ("locate", locate)]

/-- Reads all arguments. -/
def ofArguments : List String → Call
  | [] => .misuse
  | arg :: args =>
    match arg.toList with
    | '-' :: '-' :: name =>
      if name = ['h', 'e', 'l', 'p'] then .help
      else if name = ['v', 'e', 'r', 's', 'i', 'o', 'n'] then .version
      else .misuse
    | '-' :: 'h' :: _ => .help
    | '-' :: 'V' :: _ => .version
    | _ =>
      if arg = "help" then
        match args with
        | [] => .help
        | [name] => if name = "help" ∨ (grammars.lookup name).isSome then .help else .misuse
        | _ => .misuse
      else
        match grammars.lookup arg with
        | some g => readCommand g none {} args
        | none => .misuse

end Call
end Lineup
