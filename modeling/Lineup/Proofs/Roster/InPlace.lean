import Lineup.Proofs.InPlace
import Lineup.Proofs.Roster.Run

/-!
Reservations and additions in place, step by step. A batch of identifiers is looked at as
a whole before any of it is taken, and browsers are put into a roster only when all of
their identifiers are reserved. So a failure leaves everything as it was, and what an
action in place leaves behind is what the roster that is handed over shows.
-/

namespace Lineup

open Browser InPlace

namespace Reservations

/-- What is wrong with an identifier, the ones before it in its batch being known. -/
def fault? (r : Reservations) (seen : List String) (id : String) : Option Failure :=
  if r.isReserved id || seen.contains id then some (.duplicateIdentity id) else none

/-- Takes a batch in place, when all of it has been looked at. -/
def reserveAllInPlace (batch : List String) : InPlace Reservations Unit := do
  inspect fault? [] batch
  changeAll add batch

theorem fault?_eq_some_iff {r : Reservations} {seen : List String} {id : String} {f : Failure} :
    r.fault? seen id = some f ↔ (id ∈ r.ids.keys ∨ id ∈ seen) ∧ f = .duplicateIdentity id := by
  have hclash : (r.isReserved id || seen.contains id) = true ↔ id ∈ r.ids.keys ∨ id ∈ seen := by
    rw [Bool.or_eq_true, isReserved_iff, List.contains_iff_mem]
  rw [fault?, Option.ite_none_right_eq_some, hclash, Option.some.injEq, eq_comm (a := f)]

theorem firstFault?_eq (r : Reservations) (seen batch : List String) :
    firstFault? r.fault? seen batch = (r.firstClash? seen batch).map .duplicateIdentity := by
  induction batch generalizing seen with
  | nil => rfl
  | cons id rest ih =>
    rw [firstFault?, firstClash?, fault?]
    cases r.isReserved id || seen.contains id with
    | true => rfl
    | false => exact ih (id :: seen)

theorem outcome_reserveAllInPlace (r : Reservations) (batch : List String) :
    (reserveAllInPlace batch).outcome r = kept r (r.reserveAll batch) := by
  refine (outcome_inspect_changeAll fault? add batch r).trans ?_
  rw [firstFault?_eq, reserveAll]
  cases r.firstClash? [] batch <;> rfl

/-- A batch fails at the first identifier that is taken or stood in the batch before. -/
theorem reserveAll_eq_error_iff {r : Reservations} {batch : List String} {f : Failure} :
    r.reserveAll batch = .error f ↔ ∃ before id after, batch = before ++ id :: after ∧
      (∀ id' ∈ before, id' ∉ r.ids.keys) ∧ before.Nodup ∧
        (id ∈ r.ids.keys ∨ id ∈ before) ∧ f = .duplicateIdentity id := by
  have hfirst : r.reserveAll batch = .error f ↔ firstFault? r.fault? [] batch = some f := by
    rw [firstFault?_eq, reserveAll]
    cases r.firstClash? [] batch <;> simp
  have hnone : ∀ before, firstFault? r.fault? [] before = none ↔
      (∀ id' ∈ before, id' ∉ r.ids.keys) ∧ before.Nodup := by
    intro before
    rw [firstFault?_eq, Option.map_eq_none_iff, firstClash?_eq_none_iff]
    simp only [List.not_mem_nil, not_false_eq_true, and_true]
  rw [hfirst, firstFault?_eq_some_iff]
  simp only [hnone, fault?_eq_some_iff, List.append_nil, List.mem_reverse, and_assoc]

end Reservations

namespace Roster

/-- Adds in place: the identifiers are reserved first, and then the browsers are put in one by
one. -/
def addInPlace (base : String) (s : Spec) : InPlace Roster Unit :=
  if Spec.limit < s.count then throw (.replicationLimit base s.count Spec.limit)
  else do
    within reserved (fun r reserved => { r with reserved })
      (Reservations.reserveAllInPlace ((s.expand base).map (·.id)))
    changeAll (fun r b => { r with browsers := r.browsers.insert b.id b }) (s.expand base)

theorem ids_expand (s : Spec) (base : String) : (s.expand base).map (·.id) = s.ids base := by
  rw [Spec.expand, List.map_map]
  exact List.map_id _

/-- An addition in place leaves behind the roster that is handed over, or the old one. -/
theorem outcome_addInPlace (base : String) (s : Spec) (r : Roster) :
    (addInPlace base s).outcome r = kept r (r.add base s) := by
  rw [addInPlace, add]
  by_cases hlimit : Spec.limit < s.count
  · rw [if_pos hlimit, if_pos hlimit]
    rfl
  rw [if_neg hlimit, if_neg hlimit, outcome_bind, outcome_within, ids_expand,
    Reservations.outcome_reserveAllInPlace]
  cases r.reserved.reserveAll (s.ids base) with
  | error f => rfl
  | ok reserved =>
    refine (outcome_changeAll _ _ _).trans ?_
    exact congrArg (Except.ok (), ·)
      (Keyed.foldl_insert (mk r.name reserved) (fun b => (b.id, b)) (fun _ _ => rfl)
        (s.expand base) r.browsers)

/-! ## Calls one after the other -/

/-- Makes one addition after the other, whatever becomes of each, and tells how each ends. -/
def addEach (calls : List Addition) : StateM Roster (List (Except Failure Unit)) :=
  calls.mapM fun c => (addInPlace c.1 c.2).run

theorem run_addEach_cons (c : Addition) (rest : List Addition) (r : Roster) :
    (addEach (c :: rest)).run r =
      (((addInPlace c.1 c.2).outcome r).1 ::
        ((addEach rest).run ((addInPlace c.1 c.2).outcome r).2).1,
        ((addEach rest).run ((addInPlace c.1 c.2).outcome r).2).2) :=
  run_tryEach_cons (fun c : Addition => addInPlace c.1 c.2) c rest r

/-- What is left behind by calls in place is what a caller goes on with who is handed rosters. -/
theorem run_addEach (calls : List Addition) (r : Roster) :
    ((addEach calls).run r).2 = r.run calls := by
  induction calls generalizing r with
  | nil => rfl
  | cons c rest ih =>
    have hstep : r.run (c :: rest) = (r.attempt c).run rest := rfl
    have hattempt : ((addInPlace c.1 c.2).outcome r).2 = r.attempt c := by
      rw [outcome_addInPlace, attempt]
      cases r.add c.1 c.2 <;> rfl
    rw [run_addEach_cons, hstep, ← hattempt]
    exact ih _

end Roster
end Lineup
