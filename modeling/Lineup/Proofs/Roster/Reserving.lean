import Lineup.Proofs.Provenance
import Lineup.Proofs.Roster.InPlace

/-!
Reservations by single identifiers and by batches. A batch is held against what was
taken before it and against itself, while one identifier after the other is held
against all that is taken by then. Both look at the same identifiers, so a batch is
taken exactly if its identifiers can be taken one by one, and otherwise both fail at
the same one, but only the batch leaves nothing behind.
-/

namespace Lineup.Reservations

open InPlace

/-- Takes one identifier in place. -/
def reserveInPlace (id : String) : InPlace Reservations Unit := do
  if (← get).isReserved id then throw (.duplicateIdentity id)
  modify (·.add id)

theorem outcome_reserveInPlace (id : String) (r : Reservations) :
    (reserveInPlace id).outcome r = kept r (r.reserve id) := by
  have hread : (reserveInPlace id).outcome r = InPlace.outcome (do
      if r.isReserved id then throw (.duplicateIdentity id)
      modify (·.add id)) r := rfl
  rw [hread, reserve]
  cases r.isReserved id <;> rfl

theorem reserve_eq_error_iff {r : Reservations} {id : String} {f : Failure} :
    r.reserve id = .error f ↔ r.isReserved id = true ∧ f = .duplicateIdentity id := by
  rw [reserve]
  cases r.isReserved id <;> simp [eq_comm]

/-! ## A batch one by one -/

theorem isReserved_add (r : Reservations) (id id' : String) :
    (r.add id).isReserved id' = (r.isReserved id' || id' == id) := by
  rw [Bool.eq_iff_iff, Bool.or_eq_true, isReserved_iff, isReserved_iff, beq_iff_eq, or_comm]
  exact Keyed.mem_keys_insert r.ids id id' ()

/-- What is taken when the identifiers in `seen` are taken as well. -/
def Knows (r' r : Reservations) (seen : List String) : Prop :=
  ∀ id, r'.isReserved id = (r.isReserved id || seen.contains id)

theorem Knows.add {r r' : Reservations} {seen : List String} (h : Knows r' r seen) (id : String) :
    Knows (r'.add id) r (id :: seen) := by
  intro id'
  rw [isReserved_add, h, List.contains_cons, Bool.or_assoc]
  exact congrArg (r.isReserved id' || ·) (Bool.or_comm _ _)

/-- **Coupling.** Reserving one by one, with the identifiers seen so far taken, stops at the first
clash of the batch. -/
theorem foldlM_reserve_of_knows {r r' : Reservations} {seen : List String} (h : Knows r' r seen)
    (batch : List String) : batch.foldlM reserve r' = match r.firstClash? seen batch with
      | some id => .error (.duplicateIdentity id)
      | none => .ok (batch.foldl Reservations.add r') := by
  induction batch generalizing seen r' with
  | nil => rfl
  | cons id rest ih =>
    rw [List.foldlM_cons, firstClash?, reserve, h]
    cases r.isReserved id || seen.contains id with
    | true => rfl
    | false => exact ih (h.add id)

theorem reserveAll_eq_foldlM (r : Reservations) (batch : List String) :
    r.reserveAll batch = batch.foldlM reserve r := by
  have h : Knows r r [] := fun id => (Bool.or_false _).symm
  exact (foldlM_reserve_of_knows h batch).symm

theorem reserveAll_singleton (r : Reservations) (id : String) :
    r.reserveAll [id] = r.reserve id := by
  rw [reserveAll_eq_foldlM, List.foldlM_cons]
  cases r.reserve id <;> rfl

/-! ## Runs -/

/-- A call for one identifier or for a batch of them. -/
inductive Request where
  | one (id : String)
  | batch (ids : List String)
deriving DecidableEq, Repr

namespace Request

def ids : Request → List String
  | one id => [id]
  | batch ids => ids

def perform : Request → InPlace Reservations Unit
  | one id => reserveInPlace id
  | batch ids => reserveAllInPlace ids

/-- What a request that is granted adds. -/
def entries (q : Request) : List (String × Unit) := q.ids.map (·, ())

theorem keys_entries (q : Request) : q.entries.map (·.1) = q.ids := by
  rw [entries, List.map_map]
  exact List.map_id _

theorem outcome_perform (q : Request) (r : Reservations) :
    q.perform.outcome r = kept r (r.reserveAll q.ids) := by
  cases q with
  | one id =>
    rw [ids, reserveAll_singleton]
    exact outcome_reserveInPlace id r
  | batch ids => exact outcome_reserveAllInPlace r ids

end Request

/-- What is taken is what the requests ask for, and none of them asks for the same. -/
def Granted (r : Reservations) (acc : List Request) : Prop := r.ids.MadeOf Request.entries acc

theorem granted_empty : Granted {} [] := Keyed.madeOf_empty _

/-- **Step.** -/
theorem Granted.perform {r r' : Reservations} {acc : List Request} {q : Request}
    (h : Granted r acc) (hok : q.perform.outcome r = (.ok (), r')) : Granted r' (acc ++ [q]) := by
  rw [Request.outcome_perform, kept_eq_ok_iff] at hok
  obtain ⟨hfree, hd, rfl⟩ := reserveAll_eq_ok_iff.mp hok
  rw [Granted, ids_foldl_add]
  refine Keyed.MadeOf.insertMany h ?_ ?_
  · rw [Request.keys_entries]
    exact hfree
  · rw [Request.keys_entries]
    exact hd

/-- **Run.** A request that is refused leaves no trace. -/
theorem granted_run (requests : List Request) :
    Granted ((tryEach Request.perform requests).run {}).2
      (successes Request.perform {} requests) := by
  refine run_tryEach_of_step (P := Granted) ?_ ?_ [] granted_empty requests
  · intro r acc q _ r' h hok
    exact h.perform hok
  · intro r acc q f r' h herror
    rw [Request.outcome_perform, kept_eq_error_iff] at herror
    rw [herror.2]
    exact h

theorem Granted.isReserved_iff {r : Reservations} {acc : List Request} (h : Granted r acc)
    (id : String) : r.isReserved id = true ↔ ∃ q ∈ acc, id ∈ q.ids := by
  have hkeys := Keyed.MadeOf.mem_keys_iff h id
  simp only [Request.keys_entries] at hkeys
  rw [Reservations.isReserved_iff, hkeys]

theorem Granted.size_eq {r : Reservations} {acc : List Request} (h : Granted r acc) :
    r.size = (acc.map fun q => q.ids.length).sum := by
  have hlength : ∀ q : Request, q.entries.length = q.ids.length := fun q => List.length_map _
  rw [Reservations.size, Keyed.MadeOf.size_eq h]
  simp only [hlength]

/-- What is taken stays taken, whatever is asked for. -/
theorem isReserved_of_run {r : Reservations} {id : String} (h : r.isReserved id = true)
    (requests : List Request) :
    ((tryEach Request.perform requests).run r).2.isReserved id = true := by
  refine run_tryEach_of_step (P := fun (r : Reservations) _ => r.isReserved id = true) ?_ ?_ [] h
    requests
  · intro r _ q _ r' h hok
    rw [Request.outcome_perform, kept_eq_ok_iff] at hok
    obtain ⟨-, -, rfl⟩ := reserveAll_eq_ok_iff.mp hok
    rw [isReserved_iff, mem_keys_foldl_add]
    exact .inl ((isReserved_iff r id).mp h)
  · intro r _ q f r' h herror
    rw [Request.outcome_perform, kept_eq_error_iff] at herror
    rw [herror.2]
    exact h

/-- **Batches.** After any requests, a batch is taken exactly if its identifiers can be taken one by
one, and fails as the first of them does, with nothing taken. What is taken is what the granted
requests asked for, and stays taken. -/
theorem batch_matches_one_by_one (requests : List Request) (batch : List String) :
    let r := ((tryEach Request.perform requests).run {}).2
    let granted := successes Request.perform {} requests
    let oneByOne := inTurn reserveInPlace
    r.reserveAll batch = batch.foldlM reserve r ∧
    (∀ r', (reserveAllInPlace batch).outcome r = (.ok (), r') ↔
      (oneByOne batch).outcome r = (.ok (), r')) ∧
    (∀ f r', (reserveAllInPlace batch).outcome r = (.error f, r') ↔
      r' = r ∧ ∃ r₁, (oneByOne batch).outcome r = (.error f, r₁)) ∧
    (∀ f r₁, (oneByOne batch).outcome r = (.error f, r₁) ↔
      ∃ before id after, batch = before ++ id :: after ∧
        (oneByOne before).outcome r = (.ok (), r₁) ∧
        r₁.isReserved id = true ∧ f = .duplicateIdentity id) ∧
    (∀ id, r.isReserved id = true ↔ ∃ q ∈ granted, id ∈ q.ids) ∧
    r.size = (granted.map fun q => q.ids.length).sum ∧
    ∀ more id, r.isReserved id = true →
      ((tryEach Request.perform (requests ++ more)).run {}).2.isReserved id = true := by
  intro r granted oneByOne
  have hgranted : Granted r granted := granted_run requests
  have hstep : ∀ id r, (reserveInPlace id).outcome r = kept r (r.reserve id) :=
    outcome_reserveInPlace
  refine ⟨reserveAll_eq_foldlM r batch, fun r' => ?succeeds, fun f r' => ?fails, fun f r₁ => ?first,
    hgranted.isReserved_iff, hgranted.size_eq, fun more id hid => ?kept⟩
  case succeeds =>
    rw [outcome_reserveAllInPlace, kept_eq_ok_iff, reserveAll_eq_foldlM,
      outcome_inTurn_eq_ok_iff hstep]
  case fails =>
    rw [outcome_reserveAllInPlace, reserveAll_eq_foldlM, kept_foldlM_eq_error_iff hstep]
  case first =>
    simp only [oneByOne, outcome_inTurn_eq_error_iff hstep, reserve_eq_error_iff]
  case kept =>
    rw [run_tryEach_append]
    exact isReserved_of_run hid more

-- One by one, the identifiers before the repeated one stay behind.
example :
    let batch := ["a", "b", "a"]
    ((reserveAllInPlace batch).outcome {}).2.size = 0 ∧
    ((inTurn reserveInPlace batch).outcome {}).2.size = 2 ∧
    ((inTurn reserveInPlace batch).outcome {}).1 = ((reserveAllInPlace batch).outcome {}).1 := by
  decide +kernel

end Lineup.Reservations
