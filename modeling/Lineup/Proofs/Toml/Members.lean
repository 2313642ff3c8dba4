import Lineup.Toml.Answer
import Lineup.Proofs.Document.Outline

/-!
What a schema is told about a TOML document.
-/

namespace Lineup.Toml

open Document Steps

namespace Node

def kinds : Kinds Node where
  text v s := v = .text s
  integer v n := v = .integer n
  list v vs := v = .list vs
  map v ms := v = .table ms

theorem answers_kinds : kinds.Answers where
  text h expected := by
    subst h
    rfl
  choice h α words a := by
    subst h
    change answerChoice words (text _) = _ ↔ _
    cases hword : words.lookup _ <;> simp [answerChoice, hword]
  textThere _ := rfl
  integer h := by
    subst h
    rfl
  integerThere _ := rfl
  list h := by
    subst h
    refine ⟨_, rfl, ⟨.schema, rfl⟩, ?_⟩
    simp [Function.comp_def]
  map h := by
    subst h
    refine .of_hands (fun _ => rfl) (fun _ => rfl) ⟨?_, .schema, rfl⟩
    rw [List.forall₂_map_left_iff, List.forall₂_same]
    exact fun m _ => ⟨fun _ => rfl, rfl⟩

theorem shows_table {members : List (String × Node)} {ms : List (String × Outline)}
    (h : Correspond kinds.Shows members ms) : kinds.Shows (.table members) (.map ms) :=
  .of_correspond rfl h

end Node

/-! ## Texts -/

theorem decode_eq_ok_iff {α : Type} {read : (Cause → Fault) → Node → Except Fault α} {a : α}
    {text : String} : decode read text = .ok a ↔
      ∃ v, ofText? text = some v ∧ read .schema v = .ok a := by
  rw [decode, mapError_eq_ok_iff]
  cases ofText? text <;> simp

end Lineup.Toml
