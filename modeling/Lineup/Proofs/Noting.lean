import Lineup.Command.Run
import Mathlib.Control.Traversable.Basic
import Mathlib.Tactic.Common

/-!
One program in two worlds: in a world itself, and in that world as it notes. The
answers are the same, and something is known of the notes. There is one rule for each
way to put programs together, so that for a program only its questions are left.
-/

namespace Lineup

variable {α β : Type} {P Q : Note → Prop}

/-- What is asked of a world, and what is asked in the same way of that world as it notes: the
answer is the same, and the notes that are added to those before have a property. -/
def Tells (P : Note → Prop) (x : Id α) (y : StateT (List Note) Id α) : Prop :=
  ∃ told, (∀ note ∈ told, P note) ∧ ∀ before, y.run before = (x.run, before ++ told)

namespace Tells

theorem mono (hPQ : ∀ note, P note → Q note) {x : Id α} {y : StateT (List Note) Id α}
    (h : Tells P x y) : Tells Q x y := by
  obtain ⟨told, htold, hrun⟩ := h
  exact ⟨told, fun note hnote => hPQ note (htold note hnote), hrun⟩

/-- A question of a world is answered without a note. -/
theorem lift (x : Id α) : Tells P x (StateT.lift x) :=
  ⟨[], by simp, fun before => congrArg (Prod.mk x.run) (List.append_nil before).symm⟩

theorem pure (a : α) : Tells P (Pure.pure a) (Pure.pure a) := lift (Pure.pure a : Id α)

theorem note (w : World Id) {n : Note} (h : P n) : Tells P (w.note n) (w.noting.note n) :=
  ⟨[n], by simpa using h, fun _ => rfl⟩

theorem bind {x : Id α} {y : StateT (List Note) Id α} {f : α → Id β}
    {g : α → StateT (List Note) Id β} (hx : Tells P x y) (hf : Tells P (f x.run) (g x.run)) :
    Tells P (x >>= f) (y >>= g) := by
  obtain ⟨told, htold, hy⟩ := hx
  obtain ⟨told', htold', hg⟩ := hf
  refine ⟨told ++ told', ?_, fun before => ?_⟩
  · intro note hnote
    exact (List.mem_append.mp hnote).elim (htold note) (htold' note)
  · have hstep : (y >>= g).run before = (g (y.run before).1).run (y.run before).2 := rfl
    rw [hstep, hy, hg, List.append_assoc]
    rfl

theorem map (k : α → β) {x : Id α} {y : StateT (List Note) Id α} (h : Tells P x y) :
    Tells P (k <$> x) (k <$> y) := by
  obtain ⟨told, htold, hy⟩ := h
  refine ⟨told, htold, fun before => ?_⟩
  have hstep : (k <$> y).run before = (k (y.run before).1, (y.run before).2) := rfl
  rw [hstep, hy]
  rfl

/-! ### Questions that may fail -/

variable {x : ExceptT Failure Id α} {y : ExceptT Failure (StateT (List Note) Id) α}
  {f : α → ExceptT Failure Id β} {g : α → ExceptT Failure (StateT (List Note) Id) β}

theorem ofExcept (e : Except Failure α) : Tells P (liftM e : ExceptT Failure Id α).run
    (liftM e : ExceptT Failure (StateT (List Note) Id) α).run := by
  cases e <;> exact pure _

theorem answer {x : Id α} {y : StateT (List Note) Id α} (h : Tells P x y) :
    Tells P (liftM x : ExceptT Failure Id α).run
      (liftM y : ExceptT Failure (StateT (List Note) Id) α).run :=
  h.map Except.ok

/-- Nothing is asked after a failure, so only what follows an answer has to be looked at. -/
theorem andThen (hx : Tells P x.run y.run)
    (hf : ∀ a, x.run = .ok a → Tells P (f a).run (g a).run) :
    Tells P (x >>= f).run (y >>= g).run := by
  refine bind (f := ExceptT.bindCont f) (g := ExceptT.bindCont g) hx ?_
  change Tells P (ExceptT.bindCont f x.run) (ExceptT.bindCont g x.run)
  cases hrun : x.run with
  | ok a => exact hf a hrun
  | error e => exact pure _

theorem foldlM {f : β → α → ExceptT Failure Id β}
    {g : β → α → ExceptT Failure (StateT (List Note) Id) β}
    (h : ∀ b a, Tells P (f b a).run (g b a).run) (l : List α) (b : β) :
    Tells P (l.foldlM f b).run (l.foldlM g b).run := by
  induction l generalizing b with
  | nil => exact pure _
  | cons a l ih =>
    rw [List.foldlM_cons, List.foldlM_cons]
    exact (h b a).andThen fun b' _ => ih b'

theorem mapM (h : ∀ a, Tells P (f a).run (g a).run) (l : List α) :
    Tells P (l.mapM f).run (l.mapM g).run := by
  induction l with
  | nil => exact pure _
  | cons a l ih =>
    rw [List.mapM_cons, List.mapM_cons]
    exact (h a).andThen fun b _ => ih.andThen fun bs _ => pure _

end Tells

/-! ## Something that writes -/

namespace Writing

/-- The same of something that writes: what is written does not depend on the notes either. -/
def Noted (P : Note → Prop) (x : Writing Id α) (y : Writing (StateT (List Note) Id) α) : Prop :=
  ∀ written, Tells P (x.run.run written) (y.run.run written)

namespace Noted

theorem mono (hPQ : ∀ note, P note → Q note) {x : Writing Id α}
    {y : Writing (StateT (List Note) Id) α} (h : Noted P x y) : Noted Q x y :=
  fun written => (h written).mono hPQ

theorem pure (a : α) : Noted P (Pure.pure a) (Pure.pure a) := fun _ => .pure _

theorem andThen {x : Writing Id α} {y : Writing (StateT (List Note) Id) α} {f : α → Writing Id β}
    {g : α → Writing (StateT (List Note) Id) β} (hx : Noted P x y)
    (hf : ∀ a written written', x.run.run written = (.ok a, written') → Noted P (f a) (g a)) :
    Noted P (x >>= f) (y >>= g) := by
  intro written
  refine Tells.bind (f := fun p => (ExceptT.bindCont f p.1).run p.2)
    (g := fun p => (ExceptT.bindCont g p.1).run p.2) (hx written) ?_
  cases hrun : (x.run.run written).run with
  | mk result written' =>
    cases result with
    | ok a => exact hf a written written' hrun written'
    | error e => exact .pure _

theorem writeAll (texts : List String) :
    Noted P (Writing.writeAll texts) (Writing.writeAll texts) := by
  induction texts with
  | nil => exact .pure _
  | cons t ts ih => exact andThen (fun _ => .pure _) fun _ _ _ _ => ih

theorem answerThen {x : Id α} {y : StateT (List Note) Id α} {f : α → Writing Id β}
    {g : α → Writing (StateT (List Note) Id) β} (hx : Tells P x y)
    (hf : Noted P (f x.run) (g x.run)) : Noted P (liftM x >>= f) (liftM y >>= g) := by
  refine andThen (fun written => hx.map fun a => (Except.ok a, written)) ?_
  intro a written written' hrun
  cases hrun
  exact hf

theorem askThen {x : ExceptT Failure Id α} {y : ExceptT Failure (StateT (List Note) Id) α}
    {f : α → Writing Id β} {g : α → Writing (StateT (List Note) Id) β}
    (hx : Tells P x.run y.run) (hf : ∀ a, x.run = .ok a → Noted P (f a) (g a)) :
    Noted P (ask x >>= f) (ask y >>= g) := by
  refine andThen (fun _ => hx.bind (.pure _)) fun a written written' hrun => hf a ?_
  exact (Prod.ext_iff.mp hrun).1

end Noted
end Writing

end Lineup
