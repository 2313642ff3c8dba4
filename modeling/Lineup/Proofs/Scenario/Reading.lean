import Lineup.Scenario.Format
import Lineup.Proofs.Document.Record
import Lineup.Proofs.Scenario.WrittenSpec

/-!
Scenarios that have been read, from a text in any format, hold only specs that
stand for no more browsers than one spec may.
-/

namespace Lineup.Scenario

open Browser Document Steps

/-- Every spec of a scenario is within the limit. -/
def Definition.Bounded (d : Definition) : Prop := ∀ e ∈ d.roles.entries, e.2.count ≤ Spec.limit

section

variable {ν ε : Type} [Reading ν ε]

theorem readSpec_count_le {report : Cause → ε} {v : ν} {s : Spec}
    (h : readSpec report v = .ok s) : s.count ≤ Spec.limit := by
  rw [readSpec] at h
  obtain ⟨w, -, h⟩ := bind_eq_ok_iff.mp h
  exact WrittenSpec.count_le_limit (mapError_eq_ok_iff.mp h)

variable {P : Spec → Prop}

theorem readRoles_forall
    (hP : ∀ (report : Cause → ε) (v : ν) s, readSpec report v = .ok s → P s)
    {done roles : Keyed Spec} {es : List (Entry ν ε)} (hdone : ∀ e ∈ done.entries, P e.2)
    (h : readRoles done es = .ok roles) : ∀ e ∈ roles.entries, P e.2 := by
  induction es generalizing done with
  | nil =>
    cases h
    exact hdone
  | cons e rest ih =>
    rw [readRoles] at h
    obtain ⟨role, -, h⟩ := bind_eq_ok_iff.mp h
    obtain ⟨s, hs, h⟩ := bind_eq_ok_iff.mp h
    split at h
    · cases h
    · refine ih (fun e' he' => ?_) h
      rcases Keyed.mem_place he' with rfl | he'
      · exact hP _ _ s hs
      · exact hdone e' he'

theorem readRoleMap_forall
    (hP : ∀ (report : Cause → ε) (v : ν) s, readSpec report v = .ok s → P s) {v : ν}
    {roles : Keyed Spec} (h : readRoleMap v = .ok roles) : ∀ e ∈ roles.entries, P e.2 := by
  rw [readRoleMap] at h
  obtain ⟨es, -, h⟩ := bind_eq_ok_iff.mp h
  obtain ⟨roles', hroles, h⟩ := bind_eq_ok_iff.mp h
  obtain ⟨report, -, h⟩ := bind_eq_ok_iff.mp h
  cases h
  refine readRoles_forall hP (fun e he => ?_) hroles
  cases he

theorem definitionRecord_keeps
    (hP : ∀ (report : Cause → ε) (v : ν) s, readSpec report v = .ok s → P s) :
    (definitionRecord : Record ν ε Definition).Keeps fun d => ∀ e ∈ d.roles.entries, P e.2 := by
  intro m hm v change hchange d hd
  simp only [definitionRecord, List.mem_cons, List.not_mem_nil, or_false] at hm
  rcases hm with rfl | rfl
  · obtain ⟨name, -, rfl⟩ := map_eq_ok_iff.mp hchange
    exact hd
  · obtain ⟨roles, hroles, rfl⟩ := map_eq_ok_iff.mp hchange
    exact readRoleMap_forall hP hroles

/-- What holds of every spec that is read holds of every spec of a file. -/
theorem readFile_forall
    (hP : ∀ (report : Cause → ε) (v : ν) s, readSpec report v = .ok s → P s) {v : ν}
    {defs : List Definition} (h : readFile v = .ok defs) :
    ∀ d ∈ defs, ∀ e ∈ d.roles.entries, P e.2 := by
  have hkeeps : (fileRecord : Record ν ε (List Definition)).Keeps fun l =>
      ∀ d ∈ l, ∀ e ∈ d.roles.entries, P e.2 := by
    intro m hm v change hchange l _
    simp only [fileRecord, List.mem_singleton] at hm
    subst hm
    obtain ⟨l', hl', rfl⟩ := map_eq_ok_iff.mp hchange
    refine readList_forall (fun v d hd => ?_) hl'
    refine Record.read_keeps (definitionRecord_keeps hP) (fun e he => ?_) hd
    cases he
  exact Record.read_keeps hkeeps (by simp) h

theorem readFile_bounded {v : ν} {defs : List Definition} (h : readFile v = .ok defs) :
    ∀ d ∈ defs, d.Bounded :=
  readFile_forall (fun _ _ _ => readSpec_count_le) h

end

/-- What holds of everything that a schema reads from a node holds of what is read from a text. -/
theorem Format.decode_of_read {α : Type}
    {read : {ν ε : Type} → [Reading ν ε] → (Cause → ε) → ν → Except ε α} {P : α → Prop}
    (h : ∀ {ν ε : Type} [Reading ν ε] (report : Cause → ε) (v : ν) (a : α),
      read report v = .ok a → P a)
    {f : Format} {s : String} {a : α} (hd : f.decode read s = .ok a) : P a := by
  cases f with
  | json =>
    obtain ⟨a', ha', hd⟩ := bind_eq_ok_iff.mp (mapError_eq_ok_iff.mp hd)
    obtain ⟨-, -, hd⟩ := bind_eq_ok_iff.mp hd
    cases hd
    exact h _ _ _ ha'
  | yaml =>
    obtain ⟨a', ha', hd⟩ := bind_eq_ok_iff.mp (mapError_eq_ok_iff.mp hd)
    split at hd
    · cases hd
      exact h _ _ _ ha'
    · cases hd
  | toml =>
    have hd' := mapError_eq_ok_iff.mp hd
    split at hd'
    · exact h _ _ _ hd'
    · cases hd'

theorem readScenarios_bounded {f : Format} {text : String} {defs : List Definition}
    (h : f.readScenarios text = .ok defs) : ∀ d ∈ defs, d.Bounded :=
  Format.decode_of_read (P := fun defs => ∀ d ∈ defs, d.Bounded)
    (fun _ _ _ hread => readFile_bounded hread) h

end Lineup.Scenario
