import Lineup.Failure
import Lineup.Proofs.Steps

/-!
Actions on what is held in place. What an action has changed by the time it fails stays
changed, so it takes a proof that a failure leaves nothing behind. An action that
inspects a whole batch before it changes anything for the batch fails at the first
element with a fault, and then it has changed nothing. Actions that are taken one after
the other have changed what those before the failing one change.
-/

namespace Lineup

/-- An action on what is held in place, which may fail. -/
abbrev InPlace (σ : Type) := ExceptT Failure (StateM σ)

namespace InPlace

variable {σ τ α β : Type}

/-- How an action ends, and what it leaves behind. -/
def outcome (x : InPlace σ α) (s : σ) : Except Failure α × σ := x.run.run s

/-- An action on a part of what is held. -/
def within (part : σ → τ) (put : σ → τ → σ) (x : InPlace τ α) : InPlace σ α :=
  ExceptT.mk fun s => ((x.outcome (part s)).1, put s (x.outcome (part s)).2)

/-- Looks at one element after the other, up to the first one with a fault. The elements before
it are known when an element is looked at, the last of them first. -/
def inspect (fault? : σ → List α → α → Option Failure) (seen : List α) : List α → InPlace σ Unit
  | [] => pure ()
  | a :: rest => do
    match fault? (← get) seen a with
    | some f => throw f
    | none => inspect fault? (a :: seen) rest

/-- Makes the change for one element after the other. -/
def changeAll (change : σ → α → σ) (l : List α) : InPlace σ Unit :=
  l.forM fun a => modify (change · a)

/-- What there is after a call that hands over something new unless it fails: the new, or else
the old as it was. -/
def kept (s : σ) : Except Failure σ → Except Failure Unit × σ
  | .ok s' => (.ok (), s')
  | .error f => (.error f, s)

theorem kept_eq_ok_iff {s s' : σ} {x : Except Failure σ} :
    kept s x = (.ok (), s') ↔ x = .ok s' := by
  cases x <;> simp [kept]

theorem kept_eq_error_iff {s s' : σ} {x : Except Failure σ} {f : Failure} :
    kept s x = (.error f, s') ↔ x = .error f ∧ s' = s := by
  cases x <;> simp [kept, eq_comm]

theorem outcome_bind (x : InPlace σ α) (f : α → InPlace σ β) (s : σ) :
    (x >>= f).outcome s = match x.outcome s with
      | (.ok a, s') => (f a).outcome s'
      | (.error e, s') => (.error e, s') := by
  change ExceptT.bindCont f (x.outcome s).1 (x.outcome s).2 = _
  rcases x.outcome s with ⟨_ | _, s'⟩ <;> rfl

theorem outcome_within (part : σ → τ) (put : σ → τ → σ) (x : InPlace τ α) (s : σ) :
    (within part put x).outcome s = ((x.outcome (part s)).1, put s (x.outcome (part s)).2) := rfl

theorem outcome_changeAll (change : σ → α → σ) (l : List α) (s : σ) :
    (changeAll change l).outcome s = (.ok (), l.foldl change s) := by
  induction l generalizing s with
  | nil => rfl
  | cons a rest ih => exact ih (change s a)

/-! ## Faults -/

/-- The first fault in a list whose elements are held against those before them. -/
def firstFault? (fault? : List α → α → Option Failure) (seen : List α) : List α → Option Failure
  | [] => none
  | a :: rest =>
    match fault? seen a with
    | some f => some f
    | none => firstFault? fault? (a :: seen) rest

theorem firstFault?_eq_some_iff {fault? : List α → α → Option Failure} {seen l : List α}
    {f : Failure} : firstFault? fault? seen l = some f ↔ ∃ before a after,
      l = before ++ a :: after ∧ firstFault? fault? seen before = none ∧
        fault? (before.reverse ++ seen) a = some f := by
  induction l generalizing seen with
  | nil => simp [firstFault?]
  | cons a rest ih =>
    cases hfault : fault? seen a with
    | some g =>
      simp only [firstFault?, hfault, Option.some.injEq]
      constructor
      · rintro rfl
        exact ⟨[], a, rest, rfl, rfl, hfault⟩
      · rintro ⟨before, a', after, hsplit, hbefore, ha'⟩
        cases before with
        | nil =>
          cases hsplit
          rw [List.reverse_nil, List.nil_append, hfault] at ha'
          exact Option.some.inj ha'
        | cons b before =>
          cases hsplit
          simp [firstFault?, hfault] at hbefore
    | none =>
      simp only [firstFault?, hfault, ih]
      constructor
      · rintro ⟨before, a', after, rfl, hbefore, ha'⟩
        refine ⟨a :: before, a', after, rfl, ?_, ?_⟩
        · simpa only [firstFault?, hfault] using hbefore
        · simpa using ha'
      · rintro ⟨before, a', after, hsplit, hbefore, ha'⟩
        cases before with
        | nil =>
          cases hsplit
          rw [List.reverse_nil, List.nil_append, hfault] at ha'
          cases ha'
        | cons b before =>
          cases hsplit
          refine ⟨before, a', after, rfl, ?_, ?_⟩
          · simpa only [firstFault?, hfault] using hbefore
          · simpa using ha'

/-- An inspection changes nothing. -/
theorem outcome_inspect (fault? : σ → List α → α → Option Failure) (seen l : List α) (s : σ) :
    (inspect fault? seen l).outcome s = match firstFault? (fault? s) seen l with
      | some f => (.error f, s)
      | none => (.ok (), s) := by
  induction l generalizing seen with
  | nil => rfl
  | cons a rest ih =>
    have hstep : (inspect fault? seen (a :: rest)).outcome s =
        InPlace.outcome (match fault? s seen a with
          | some f => throw f
          | none => inspect fault? (a :: seen) rest) s := rfl
    rw [hstep, firstFault?]
    cases fault? s seen a with
    | some f => rfl
    | none => exact ih (a :: seen)

/-- **All or nothing.** Where a batch has a fault nothing is changed for any of it. -/
theorem outcome_inspect_changeAll (fault? : σ → List α → α → Option Failure)
    (change : σ → α → σ) (l : List α) (s : σ) :
    (inspect fault? [] l >>= fun _ => changeAll change l).outcome s =
      match firstFault? (fault? s) [] l with
      | some f => (.error f, s)
      | none => (.ok (), l.foldl change s) := by
  rw [outcome_bind, outcome_inspect]
  cases firstFault? (fault? s) [] l with
  | some f => rfl
  | none => exact outcome_changeAll change l s

/-! ## Actions one after the other -/

/-- Acts for one element after the other, up to the first one for which this fails. -/
def inTurn (act : α → InPlace σ Unit) (l : List α) : InPlace σ Unit := l.forM act

/-- Acts for each element, whatever becomes of the others, and tells how each action ends. -/
def tryEach (act : α → InPlace σ β) (l : List α) : StateM σ (List (Except Failure β)) :=
  l.mapM fun a => (act a).run

/-- The elements for which the action succeeds when each of them is tried. -/
def successes (act : α → InPlace σ β) (s : σ) (l : List α) : List α :=
  ((l.zip ((tryEach act l).run s).1).filter (·.2.isOk)).map (·.1)

theorem outcome_inTurn_cons (act : α → InPlace σ Unit) (a : α) (rest : List α) (s : σ) :
    (inTurn act (a :: rest)).outcome s = match (act a).outcome s with
      | (.ok (), s') => (inTurn act rest).outcome s'
      | (.error f, s') => (.error f, s') := by
  refine (outcome_bind (act a) (fun _ => inTurn act rest) s).trans ?_
  rcases (act a).outcome s with ⟨_ | _, s'⟩ <;> rfl

section

variable {act : α → InPlace σ Unit} {step : σ → α → Except Failure σ}
  (h : ∀ a s, (act a).outcome s = kept s (step s a)) {l : List α} {s s' : σ}

include h

/-- Actions that all succeed are steps that all succeed. -/
theorem outcome_inTurn_eq_ok_iff :
    (inTurn act l).outcome s = (.ok (), s') ↔ l.foldlM step s = .ok s' := by
  induction l generalizing s with
  | nil =>
    constructor
    · intro hl
      cases hl
      rfl
    · intro hl
      cases hl
      rfl
  | cons a rest ih =>
    rw [outcome_inTurn_cons, h, List.foldlM_cons, Steps.bind_eq_ok_iff]
    cases hstep : step s a with
    | ok s₁ => simp [kept, ih]
    | error f => simp [kept]

theorem outcome_inTurn_of_fails {before after : List α} {a : α} {f : Failure}
    (hbefore : before.foldlM step s = .ok s') (ha : step s' a = .error f) :
    (inTurn act (before ++ a :: after)).outcome s = (.error f, s') := by
  induction before generalizing s with
  | nil =>
    cases hbefore
    rw [List.nil_append, outcome_inTurn_cons, h, ha]
    rfl
  | cons b rest ih =>
    rw [List.foldlM_cons] at hbefore
    obtain ⟨s₁, hstep, hrest⟩ := Steps.bind_eq_ok_iff.mp hbefore
    rw [List.cons_append, outcome_inTurn_cons, h, hstep]
    exact ih hrest

/-- What is left behind by actions of which one fails is what those before it leave behind. -/
theorem outcome_inTurn_eq_error_iff {f : Failure} :
    (inTurn act l).outcome s = (.error f, s') ↔ ∃ before a after, l = before ++ a :: after ∧
      (inTurn act before).outcome s = (.ok (), s') ∧ step s' a = .error f := by
  simp only [outcome_inTurn_eq_ok_iff h]
  constructor
  · intro hl
    cases hsteps : l.foldlM step s with
    | ok s₁ =>
      rw [(outcome_inTurn_eq_ok_iff h).mpr hsteps] at hl
      cases hl
    | error g =>
      obtain ⟨before, a, after, s₁, rfl, hbefore, ha⟩ := Steps.foldlM_eq_error_iff.mp hsteps
      rw [outcome_inTurn_of_fails h hbefore ha] at hl
      cases hl
      exact ⟨before, a, after, rfl, hbefore, ha⟩
  · rintro ⟨before, a, after, rfl, hbefore, ha⟩
    exact outcome_inTurn_of_fails h hbefore ha

/-- Steps of which all or none are kept fail as actions in turn do, and leave nothing behind. -/
theorem kept_foldlM_eq_error_iff {f : Failure} : kept s (l.foldlM step s) = (.error f, s') ↔
    s' = s ∧ ∃ s₁, (inTurn act l).outcome s = (.error f, s₁) := by
  simp only [kept_eq_error_iff, Steps.foldlM_eq_error_iff, outcome_inTurn_eq_error_iff h,
    outcome_inTurn_eq_ok_iff h]
  constructor
  · rintro ⟨⟨before, a, after, s₁, hl, hbefore, ha⟩, hs⟩
    exact ⟨hs, s₁, before, a, after, hl, hbefore, ha⟩
  · rintro ⟨hs, s₁, before, a, after, hl, hbefore, ha⟩
    exact ⟨⟨before, a, after, s₁, hl, hbefore, ha⟩, hs⟩

end

theorem run_tryEach_cons (act : α → InPlace σ β) (a : α) (rest : List α) (s : σ) :
    (tryEach act (a :: rest)).run s =
      (((act a).outcome s).1 :: ((tryEach act rest).run ((act a).outcome s).2).1,
        ((tryEach act rest).run ((act a).outcome s).2).2) := by
  rw [tryEach, List.mapM_cons]
  rfl

theorem run_tryEach_append (act : α → InPlace σ β) (l more : List α) (s : σ) :
    ((tryEach act (l ++ more)).run s).2 =
      ((tryEach act more).run ((tryEach act l).run s).2).2 := by
  induction l generalizing s with
  | nil => rfl
  | cons a rest ih =>
    rw [List.cons_append, run_tryEach_cons, run_tryEach_cons]
    exact ih _

theorem successes_cons (act : α → InPlace σ β) (s : σ) (a : α) (rest : List α) :
    successes act s (a :: rest) = match (act a).outcome s with
      | (.ok _, s') => a :: successes act s' rest
      | (.error _, s') => successes act s' rest := by
  rw [successes, run_tryEach_cons]
  rcases (act a).outcome s with ⟨_ | _, s'⟩ <;> rfl

/-- **Runs.** What each success brings about and each failure leaves alone holds of the successes
of a run. -/
theorem run_tryEach_of_step {act : α → InPlace σ β} {P : σ → List α → Prop}
    (hok : ∀ s done a b s', P s done → (act a).outcome s = (.ok b, s') → P s' (done ++ [a]))
    (herror : ∀ s done a f s', P s done → (act a).outcome s = (.error f, s') → P s' done)
    {s : σ} (done : List α) (h : P s done) (l : List α) :
    P ((tryEach act l).run s).2 (done ++ successes act s l) := by
  induction l generalizing s done with
  | nil =>
    have hnone : successes act s [] = [] := rfl
    rw [hnone, List.append_nil]
    exact h
  | cons a rest ih =>
    rw [run_tryEach_cons, successes_cons]
    rcases hact : (act a).outcome s with ⟨f | b, s'⟩
    · exact ih done (herror s done a f s' h hact)
    · rw [List.append_cons]
      exact ih (done ++ [a]) (hok s done a b s' h hact)

end InPlace
end Lineup
