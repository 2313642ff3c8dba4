import Lineup.Roster.Label
import Lineup.Scenario.Preset
import Lineup.Proofs.Roster.Order

/-!
The presets. Every preset that is listed can be had for every directory of test files,
a name that is not listed is refused, and the directory is seen in one preset only:
in what its two browsers show.
-/

namespace Lineup

open Browser

namespace Roster

/-- Specs without replication under increasing bases can be added, and make a browser each. -/
theorem addAll_of_single {name : String} {calls : List Addition}
    (hsingle : ∀ c ∈ calls, c.2.instances = 0) (hlt : calls.Pairwise fun c c' => c.1 < c'.1) :
    ∃ r, (named name).addAll calls = .ok r ∧ r.name = some name ∧
      r.toList = calls.map fun c => c.2.instanceAt c.1 := by
  have hlimit : ∀ c ∈ calls, c.2.count ≤ Spec.limit := by
    intro c hc
    rw [Spec.count, if_pos (hsingle c hc)]
    decide
  have hapart : calls.Pairwise Apart := by
    refine hlt.imp_of_mem fun {c c'} hc hc' hcc' => ?_
    rw [Apart, Addition.ids_of_single (hsingle c hc), Addition.ids_of_single (hsingle c' hc')]
    simpa using (ne_of_lt hcc').symm
  obtain ⟨r, hr⟩ := (addAll_fresh_isOk_iff (some name) calls).mpr ⟨hlimit, hapart⟩
  have hmade : calls.flatMap Addition.entries =
      calls.map fun c => (c.1, c.2.instanceAt c.1) := by
    rw [List.map_eq_flatMap]
    refine List.flatMap_congr fun c hc => ?_
    rw [Addition.entries_eq, Addition.ids_of_single (hsingle c hc), List.map_singleton]
  have hperm := (accounted_of_addAll hr).entries
  rw [hmade] at hperm
  -- Both lists are in the order of the identifiers, so they are the same list.
  have hincreasing : (calls.map fun c => (c.1, c.2.instanceAt c.1)).Pairwise
      fun a b => a.1 < b.1 := List.pairwise_map.mpr hlt
  have hbrowsers : r.browsers = ⟨_, hincreasing⟩ := Keyed.eq_of_perm hperm
  refine ⟨r, hr, name_of_addAll hr, ?_⟩
  rw [Roster.toList, hbrowsers, Keyed.values, List.map_map]
  rfl

end Roster

namespace Scenario.Preset

open Roster Steps

theorem build_single (name : String) (spec : Spec) (h : spec.instances = 0) :
    ∃ r, (single name spec).build = .ok r ∧ r.name = some name ∧
      r.toList = [spec.instanceAt "browser"] :=
  addAll_of_single (by simpa [single] using h) (List.pairwise_singleton _ _)

theorem build_sides (name : String) (spec : Spec) (h : spec.instances = 0) :
    ∃ r, (sides name spec).build = .ok r ∧ r.name = some name ∧
      r.toList = [spec.instanceAt "presenter", spec.instanceAt "viewer"] :=
  have hlt : "presenter" < "viewer" := by decide
  addAll_of_single (by simpa [sides] using h) (List.pairwise_pair.mpr hlt)

/-- A preset can be asked for exactly by the names that are listed. -/
theorem setups?_eq_none_iff {name : String} {dir : Path} :
    setups? name dir = none ↔ name ∉ names := by
  unfold setups?
  split <;> simp_all [names]

/-- No addition of a preset fails. -/
theorem exists_build {name : String} {dir : Path} {l : List Setup} (h : setups? name dir = some l) :
    ∃ rosters, l.mapM Setup.build = .ok rosters := by
  obtain ⟨chrome, hchrome, -⟩ := build_single "local-chrome" (beside .chrome) rfl
  obtain ⟨firefox, hfirefox, -⟩ := build_single "local-firefox" (beside .firefox) rfl
  obtain ⟨both, hboth, -⟩ := build_sides "local-presenter-and-viewer" (beside .chrome) rfl
  obtain ⟨shown, hshown, -⟩ := build_sides "local-presenter-and-viewer-rgb" (showing dir) rfl
  simp only [mapM_eq_ok_iff]
  -- One case for each name that is listed, in their order.
  unfold setups? at h
  split at h <;> cases h
  · exact ⟨_, .cons hchrome (.cons hfirefox .nil)⟩
  · exact ⟨_, .cons hchrome .nil⟩
  · exact ⟨_, .cons hfirefox .nil⟩
  · exact ⟨_, .cons hboth .nil⟩
  · exact ⟨_, .cons hshown .nil⟩

theorem byName_eq_error_iff {name : String} {dir : Path} {f : Failure} :
    byName name dir = .error f ↔ name ∉ names ∧ f = .unknownPreset name := by
  rw [byName, ← @setups?_eq_none_iff name dir]
  cases hsetups : setups? name dir with
  | none => simp [eq_comm]
  | some l =>
    obtain ⟨rosters, hrosters⟩ := exists_build hsetups
    simp [hrosters]

/-- What is noted of a preset has no part in it. -/
theorem run_load (w : World Id) (name : String) (dir : Path) :
    (load w name dir).run = byName name dir := by
  rw [load, byName]
  cases setups? name dir with
  | none => rfl
  | some l => exact run_mapM (fun s => run_register w (.named s.name) s.specs) l

end Scenario.Preset
end Lineup
