import Lineup.Keyed
import Lineup.Failure
import Lineup.Text.Quoted

/-! Which handler serves which path. A path is bound at most once and never again. -/

namespace Lineup.Handler

inductive Lifetime where
  | shared | perSession
deriving DecidableEq, Repr

/-- What a path is bound to: one handler for all sessions, something that makes a handler for
each session, or the name under which the host finds such a maker. -/
inductive Target (σ φ : Type) where
  | shared (handler : σ)
  | perSession (make : φ)
  | perSessionNamed (name : String)
deriving DecidableEq

def Target.lifetime {σ φ : Type} : Target σ φ → Lifetime
  | shared _ => .shared
  | perSession _ => .perSession
  | perSessionNamed _ => .perSession

/-- A short description that shows a name and hides a handler. -/
def Target.describe {σ φ : Type} : Target σ φ → String
  | shared _ => "Shared(..)"
  | perSession _ => "PerSession(..)"
  | perSessionNamed name => "PerSessionNamed(" ++ Text.quoted name ++ ")"

structure Receipt where
  paths : List String
  lifetime : Lifetime
deriving DecidableEq, Repr

structure Table (σ φ : Type) where
  bindings : Keyed (Target σ φ) := ∅

namespace Table

variable {σ φ : Type}

def lookup (t : Table σ φ) (path : String) : Option (Target σ φ) := t.bindings.find? path

def paths (t : Table σ φ) : List String := t.bindings.keys

def size (t : Table σ φ) : Nat := t.bindings.size

def isEmpty (t : Table σ φ) : Bool := t.bindings.isEmpty

/-- What is wrong with the first path that cannot be bound. -/
def fault? (t : Table σ φ) : (seen : List String) → List String → Option Failure
  | _, [] => none
  | seen, path :: rest =>
    if path.toList.head? ≠ some '/' then some (.invalidHandlerPath path)
    else if (t.lookup path).isSome ∨ path ∈ seen then some (.duplicateHandlerPath path)
    else fault? t (path :: seen) rest

/-- Binds all the paths or none of them. -/
def bind (t : Table σ φ) (target : Target σ φ) (paths : List String) :
    Except Failure (Table σ φ × Receipt) :=
  match t.fault? [] paths with
  | some failure => .error failure
  | none =>
    .ok (⟨t.bindings.insertMany (paths.map (·, target))⟩, ⟨paths, target.lifetime⟩)

end Table
end Lineup.Handler
