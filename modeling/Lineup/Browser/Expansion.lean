import Lineup.Browser.Spec

/-! The concrete browsers that a spec stands for, and the identifiers they get. -/

namespace Lineup.Browser

/-- One concrete browser of a scenario: a spec without its replication, under an identifier. -/
structure Instance where
  id : String
  kind : Kind
  scope : Scope
  platform : Option Platform
  version : Option String
  video : Option Path
deriving DecidableEq, Repr, Inhabited

namespace Spec

/-- How many browsers the spec stands for. The factors are multiplied in a word of 64 bits. -/
def count (s : Spec) : Nat :=
  if s.instances = 0 then 1 else (s.instances.toUInt64 * s.perInstance.toUInt64).toNat

/-- The largest number of browsers that one spec may stand for. -/
def limit : Nat := 1024

/-- What is written behind the base for each browser: nothing without replication, the number
of the instance, and behind a dash the number within the instance if it holds several. -/
def suffixes (s : Spec) : List String :=
  if s.instances = 0 then [""]
  else if s.perInstance = 1 then (List.range s.instances.toNat).map Nat.repr
  else (List.range s.instances.toNat).flatMap fun i =>
    (List.range s.perInstance.toNat).map fun j => i.repr ++ "-" ++ j.repr

def ids (s : Spec) (base : String) : List String := s.suffixes.map (base ++ ·)

def instanceAt (s : Spec) (id : String) : Instance :=
  ⟨id, s.kind, s.scope, s.platform, s.version, s.video⟩

def expand (s : Spec) (base : String) : List Instance := (s.ids base).map s.instanceAt

end Spec
end Lineup.Browser
