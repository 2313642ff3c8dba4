/-! The closed vocabularies of a browser description: what it is, where it runs and on which
system. Each value is written as one fixed word. -/

namespace Lineup

/-- A finite type whose values are written as words. -/
class Vocabulary (α : Type) where
  all : List α
  word : α → String

namespace Vocabulary

/-- The value that is written as this word. -/
def ofWord? {α : Type} [Vocabulary α] (s : String) : Option α := all.find? (word · == s)

end Vocabulary

namespace Browser

inductive Kind where
  | chrome | firefox | iexplorer | safari
deriving DecidableEq, Repr, Inhabited

/-- Where the browser runs: beside the test, on a node of a grid, or in the hosted cloud. -/
inductive Scope where
  | beside | remote | sauceLabs
deriving DecidableEq, Repr, Inhabited

inductive Platform where
  | windows | xp | vista | win8 | mac | unix | linux | android | any
deriving DecidableEq, Repr, Inhabited

def Kind.word : Kind → String
  | chrome => "CHROME"
  | firefox => "FIREFOX"
  | iexplorer => "IEXPLORER"
  | safari => "SAFARI"

def Scope.word : Scope → String
  | beside => "LOCAL"
  | remote => "REMOTE"
  | sauceLabs => "SAUCELABS"

def Platform.word : Platform → String
  | windows => "WINDOWS"
  | xp => "XP"
  | vista => "VISTA"
  | win8 => "WIN8"
  | mac => "MAC"
  | unix => "UNIX"
  | linux => "LINUX"
  | android => "ANDROID"
  | any => "ANY"

instance : Vocabulary Kind := ⟨[.chrome, .firefox, .iexplorer, .safari], Kind.word⟩

instance : Vocabulary Scope := ⟨[.beside, .remote, .sauceLabs], Scope.word⟩

instance : Vocabulary Platform :=
  ⟨[.windows, .xp, .vista, .win8, .mac, .unix, .linux, .android, .any], Platform.word⟩

end Browser
end Lineup
