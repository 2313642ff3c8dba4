import Lineup.Proofs.Command.Effect

/-!
Locating and compiling. The file whose path is printed by one command is the file
that is read by the other one, whatever there is to be read.
-/

namespace Lineup.Command

open Writing

section

variable {w : World Id} {color json : Bool} {s : Settings}

theorem pieces_compile_of_lost {f : Failure} (h : found w s = .error f) :
    pieces w color s (compile none json) = .error f := by
  rw [pieces, h]
  rfl

theorem pieces_compile_of_found {path : Path} (h : found w s = .ok path) :
    pieces w color s (compile none json) = pieces w color s (compile (some path) json) := by
  simp only [pieces, h]
  rfl

end

/-- Locating a file and compiling the one that is found fail alike as long as no file is found,
and a file that is found is the one that is compiled. -/
theorem located_or_lost (w : World Id) (color json : Bool) :
    (∃ f, locate.effect w color = (.error f, "") ∧
      (compile none json).effect w color = (.error f, "")) ∨
    ∃ path : Path, locate.effect w color = (.ok (), path.text ++ "\n") ∧
      (compile none json).effect w color = (compile (some path) json).effect w color := by
  cases hload : (Settings.load w).run with
  | error f =>
    exact .inl ⟨f, effect_of_load_eq_error hload _, effect_of_load_eq_error hload _⟩
  | ok s =>
    rw [effect_of_load_eq_ok hload, effect_of_load_eq_ok hload]
    cases hfound : found w s with
    | error f =>
      refine .inl ⟨f, ?_, ?_⟩
      · rw [pieces, hfound]
        rfl
      · rw [pieces_compile_of_lost hfound]
        rfl
    | ok path =>
      refine .inr ⟨path, ?_, ?_⟩
      · rw [pieces, hfound]
        simp [Except.map, allOrNothing]
      · rw [effect_of_load_eq_ok hload, pieces_compile_of_found hfound]

/-- **Locating.** Where no file is located nothing is compiled, for the same reason, and a file
that is located is the one that is compiled. All paths here are texts: a path that is not
UTF-8, and cannot be told from its printed form, is not in any of these worlds. -/
theorem compile_follows_locate (w : World Id) (color json : Bool) :
    (∀ f written, locate.effect w color = (.error f, written) →
      (compile none json).effect w color = (.error f, written)) ∧
    (∀ written, locate.effect w color = (.ok (), written) →
      ∃ path : Path, written = path.text ++ "\n") ∧
    ∀ path : Path, locate.effect w color = (.ok (), path.text ++ "\n") →
      (compile none json).effect w color = (compile (some path) json).effect w color := by
  rcases located_or_lost w color json with ⟨f, hlocate, hcompile⟩ | ⟨path, hlocate, hcompile⟩
  · rw [hlocate, hcompile]
    refine ⟨fun f' written h => h, fun written h => ?_, fun path h => ?_⟩
    · cases h
    · cases h
  · rw [hlocate, hcompile]
    refine ⟨fun f written h => ?_, fun written h => ?_, fun path' h => ?_⟩
    · cases h
    · cases h
      exact ⟨path, rfl⟩
    · have htext : path.text = path'.text := (String.append_left_inj _).mp (Prod.ext_iff.mp h).2
      rw [show path = path' from congrArg Path.mk htext]

end Lineup.Command
