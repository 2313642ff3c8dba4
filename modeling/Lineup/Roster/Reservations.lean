import Lineup.Keyed
import Lineup.Failure

/-! Identifiers that are taken. They are never given back. -/

namespace Lineup

structure Reservations where
  ids : Keyed Unit := ∅
deriving DecidableEq, Inhabited

namespace Reservations

def isReserved (r : Reservations) (id : String) : Bool := r.ids.contains id

def size (r : Reservations) : Nat := r.ids.size

def isEmpty (r : Reservations) : Bool := r.ids.isEmpty

def add (r : Reservations) (id : String) : Reservations := ⟨r.ids.insert id ()⟩

def reserve (r : Reservations) (id : String) : Except Failure Reservations :=
  if r.isReserved id then .error (.duplicateIdentity id) else .ok (r.add id)

/-- The first identifier of the batch that is taken already or stood in the batch before. -/
def firstClash? (r : Reservations) : (seen : List String) → List String → Option String
  | _, [] => none
  | seen, id :: rest =>
    if r.isReserved id || seen.contains id then some id else firstClash? r (id :: seen) rest

/-- Takes the whole batch or nothing of it. -/
def reserveAll (r : Reservations) (batch : List String) : Except Failure Reservations :=
  match r.firstClash? [] batch with
  | some id => .error (.duplicateIdentity id)
  | none => .ok (batch.foldl add r)

end Reservations
end Lineup
