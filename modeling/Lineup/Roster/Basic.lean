import Lineup.Browser.Expansion
import Lineup.Roster.Reservations
import Lineup.World.Basic

/-! The browsers of one scenario under their identifiers. A roster only grows: what is
registered stays as it is, and an addition that fails leaves everything as it was. -/

namespace Lineup

open Browser

structure Roster where
  name : Option String := none
  reserved : Reservations := {}
  browsers : Keyed Instance := ∅
deriving DecidableEq, Inhabited

namespace Roster

def named (name : String) : Roster := { name := some name }

/-- Registers every browser that the spec stands for, or none of them. -/
def add (r : Roster) (base : String) (s : Spec) : Except Failure Roster :=
  if s.count > Spec.limit then .error (.replicationLimit base s.count Spec.limit)
  else do
    let reserved ← r.reserved.reserveAll (s.ids base)
    .ok { r with
      reserved
      browsers := r.browsers.insertMany ((s.expand base).map fun b => (b.id, b)) }

/-- Adds from left to right, up to the first failure. -/
def addAll (r : Roster) (specs : List (String × Spec)) : Except Failure Roster :=
  specs.foldlM (fun r e => r.add e.1 e.2) r

/-- Adds as before, and notes every spec that has been added. -/
def register {m : Type → Type} [Monad m] (w : World m) (r : Roster)
    (specs : List (String × Spec)) : ExceptT Failure m Roster :=
  specs.foldlM (fun r e => do
    let grown ← r.add e.1 e.2
    w.note (.registered r.name e.1 (e.2.expand e.1).length)
    return grown) r

def get (r : Roster) (id : String) : Except Failure Instance :=
  match r.browsers.find? id with
  | some b => .ok b
  | none => .error (.notFound id)

def kind (r : Roster) (id : String) : Except Failure Kind := (r.get id).map (·.kind)

def scope (r : Roster) (id : String) : Except Failure Scope := (r.get id).map (·.scope)

def platform (r : Roster) (id : String) : Except Failure (Option Platform) :=
  (r.get id).map (·.platform)

def version (r : Roster) (id : String) : Except Failure (Option String) :=
  (r.get id).map (·.version)

def video (r : Roster) (id : String) : Except Failure (Option Path) :=
  (r.get id).map (·.video)

def contains (r : Roster) (id : String) : Bool := r.browsers.contains id

def size (r : Roster) : Nat := r.browsers.size

def isEmpty (r : Roster) : Bool := r.browsers.isEmpty

def ids (r : Roster) : List String := r.browsers.keys

/-- The browsers in the order of their identifiers. -/
def toList (r : Roster) : List Instance := r.browsers.values

end Roster
end Lineup
