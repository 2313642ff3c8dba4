import Lineup.Settings.Basic
import Mathlib.Tactic.Common

/-!
Loading the settings of a world. This fails exactly if there is a settings file that
cannot be read or that does not follow the schema.
-/

namespace Lineup.Settings

/-- A settings file that is there but cannot be used, and what is reported of it. -/
inductive Spoilt (w : World Id) : Failure → Prop
  | unreadable {p : Path} {problem : ReadProblem} : path w = some p → w.isThere p = true →
      w.read p = .error problem → Spoilt w (.configLoad p problem.message)
  | invalid {p : Path} {text reason : String} : path w = some p → w.isThere p = true →
      w.read p = .ok text → Toml.decode (fun _ => record.read {}) text = .error reason →
      Spoilt w (.configParse reason)

theorem ofText_eq_error_iff {text : String} {f : Failure} :
    ofText text = .error f ↔
      ∃ reason, Toml.decode (fun _ => record.read {}) text = .error reason ∧
        f = .configParse reason := by
  rw [ofText]
  cases Toml.decode (fun _ => record.read {}) text with
  | ok s => simp [Except.mapError]
  | error reason => simp [Except.mapError, eq_comm]

theorem run_loadFrom (w : World Id) (p : Path) :
    (loadFrom w p).run = match w.read p with
      | .ok text => ofText text
      | .error problem => .error (.configLoad p problem.message) := by
  rw [loadFrom]
  cases w.read p <;> rfl

/-- Without a settings file there are the defaults. -/
theorem run_load (w : World Id) :
    (load w).run = match path w with
      | some p =>
        match w.isThere p with
        | true => (loadFrom w p).run
        | false => .ok {}
      | none => .ok {} := by
  change ExceptT.run (match path w with
    | some p => if @Eq Bool (w.isThere p) true then loadFrom w p else return {}
    | none => return {}) = _
  cases path w with
  | none => rfl
  | some p =>
    dsimp only
    generalize w.isThere p = there
    cases there with
    | true => rfl
    | false => rfl

theorem load_eq_error_iff {w : World Id} {f : Failure} :
    (load w).run = .error f ↔ Spoilt w f := by
  constructor
  · intro h
    rw [run_load] at h
    cases hpath : path w with
    | none =>
      rw [hpath] at h
      cases h
    | some p =>
      rw [hpath] at h
      cases hthere : w.isThere p with
      | false =>
        simp only [hthere] at h
        cases h
      | true =>
        simp only [hthere, run_loadFrom] at h
        cases hread : w.read p with
        | error problem =>
          rw [hread] at h
          cases h
          exact .unreadable hpath hthere hread
        | ok text =>
          rw [hread] at h
          obtain ⟨reason, hreason, rfl⟩ := ofText_eq_error_iff.mp h
          exact .invalid hpath hthere hread hreason
  · intro h
    rw [run_load]
    cases h with
    | unreadable hpath hthere hread => simp only [hpath, hthere, run_loadFrom, hread]
    | invalid hpath hthere hread hreason =>
      simp only [hpath, hthere, run_loadFrom, hread]
      exact ofText_eq_error_iff.mpr ⟨_, hreason, rfl⟩

end Lineup.Settings
