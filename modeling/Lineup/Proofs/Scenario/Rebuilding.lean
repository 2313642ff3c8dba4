import Lineup.Proofs.Roster.Order
import Lineup.Proofs.Scenario.Document
import Lineup.Proofs.Scenario.Loading

/-!
Rosters that are written as a scenario file can be built from it again. Each of
their browsers becomes a role that stands for this browser alone, so the roles get
along with each other however their names end.
-/

namespace Lineup

open Browser Json

namespace Roster

/-- The browsers of a roster, each as an addition of its own. -/
def singles (r : Roster) : List Addition := r.toList.map fun b => (b.id, b.spec)

/-- A browser has a version that is not empty, because its spec has. -/
theorem Accounted.version_ne {r : Roster} {acc : List Addition} (h : Accounted r acc)
    {b : Instance} (hb : b ∈ r.toList) : b.version ≠ some "" := by
  obtain ⟨⟨id, b⟩, he, rfl⟩ := List.mem_map.mp hb
  obtain ⟨c, -, -, rfl⟩ := (h.mem_entries_iff id b).mp he
  exact c.2.version_ne

theorem entries_single {b : Instance} (h : b.version ≠ some "") :
    Addition.entries (b.id, b.spec) = [(b.id, b)] := by
  rw [Addition.entries_eq, Addition.ids, b.ids_spec, List.map_singleton, b.instanceAt_spec h]

/-- A roster is made of its browsers as well. -/
theorem Accounted.singles {r : Roster} {acc : List Addition} (h : Accounted r acc) :
    Accounted r r.singles := by
  have hentries : r.singles.flatMap Addition.entries = r.toList.map fun b => (b.id, b) := by
    rw [Roster.singles, List.flatMap_map, List.map_eq_flatMap]
    exact List.flatMap_congr fun b hb => entries_single (h.version_ne hb)
  refine ⟨h.reserved, ?_⟩
  rw [hentries, ← h.reflects.entries]

theorem Accounted.nodup_toList {r : Roster} {acc : List Addition} (h : Accounted r acc) :
    (r.toList.map (·.id)).Nodup := by
  rw [h.reflects.toList]
  exact r.browsers.nodup_keys

end Roster

namespace Scenario

open Roster Steps

theorem Definition.writable_of_build {d : Definition} {r : Roster} (h : d.build = .ok r) :
    r.Writable := by
  refine ⟨?_, (Definition.accounted_of_build h).nodup_toList⟩
  rw [(Definition.makes_of_build h).name]
  rfl

theorem build_definition {d : Definition} {r : Roster} (h : d.build = .ok r) :
    r.definition.build = .ok r := by
  have hacc := Definition.accounted_of_build h
  have hname := (Definition.makes_of_build h).name
  have hperm : r.definition.roles.entries.Perm r.singles :=
    Keyed.entries_ofList_perm ((Definition.writable_of_build h).nodup _)
  have hlimit : ∀ c ∈ r.singles, c.2.count ≤ Spec.limit := by
    intro c hc
    obtain ⟨b, -, rfl⟩ := List.mem_map.mp hc
    rw [b.count_spec]
    decide
  have hall := hacc.singles.addAll_fresh hlimit hperm
  rw [hname] at hall
  rw [Definition.build, Roster.definition, hname]
  exact hall

/-- The text is read as scenarios from which these rosters are built. -/
def Rebuilds (text : String) (rosters : List Roster) : Prop :=
  ∃ file, Format.json.readScenarios text = .ok file ∧ buildAll file = .ok rosters

/-- **Rebuilding.** What was built from a file is written as a file from which it is built again,
however the text is laid out. -/
theorem rebuild_document {order : List (String × Value) → List (String × Value)}
    (horder : Reorders order) {file : List Definition} {rosters : List Roster}
    (h : buildAll file = .ok rosters) :
    (∀ text, Spells (document order rosters) text.toList → Rebuilds text rosters) ∧
    Rebuilds (document order rosters).compact rosters ∧
    ∀ level, Rebuilds ((document order rosters).pretty level) rosters := by
  have hbuilt : ∀ r ∈ rosters, ∃ d ∈ file, d.build = .ok r :=
    fun r hr => exists_of_mem_mapM h hr
  have hwritable : ∀ r ∈ rosters, r.Writable := by
    intro r hr
    obtain ⟨d, -, hd⟩ := hbuilt r hr
    exact Definition.writable_of_build hd
  have hagain : buildAll (rosters.map Roster.definition) = .ok rosters := by
    refine mapM_eq_ok_iff.mpr (List.forall₂_map_left_iff.mpr (List.forall₂_same.mpr fun r hr => ?_))
    obtain ⟨d, -, hd⟩ := hbuilt r hr
    exact build_definition hd
  have hall : ∀ text, Spells (document order rosters) text.toList → Rebuilds text rosters :=
    fun text htext => ⟨_, readScenarios_document horder hwritable htext, hagain⟩
  exact ⟨hall, hall _ (Value.spells_compact _), fun level => hall _ (Value.spells_pretty level _)⟩

/-- A grid of four cameras and one more, and a scenario without anything. -/
def cameras : List Definition := [
  ⟨"grid", .ofList [("cam", .ofSettings [.instances 2, .perInstance 2, .version "24"]),
    ("cam1", .ofSettings [.platform .xp])]⟩,
  ⟨"", ∅⟩]

def builtCameras : List Roster := (buildAll cameras).toOption.getD []

theorem rebuild_document_cameras :
    let ordered := fun ms : List (String × Value) => (Keyed.ofList ms).entries
    Reorders ordered ∧ buildAll cameras = .ok builtCameras ∧
    (∀ text, Spells (document ordered builtCameras) text.toList → Rebuilds text builtCameras) ∧
    Rebuilds (document ordered builtCameras).compact builtCameras ∧
    ∀ level, Rebuilds ((document ordered builtCameras).pretty level) builtCameras := by
  have h : buildAll cameras = .ok builtCameras := by decide +kernel
  exact ⟨reorders_ordered, h, rebuild_document reorders_ordered h⟩

-- The identifier of a browser is only found as the name of its role.
example :
    let r := (Roster.fresh (some "a")).run [("x", .ofSettings [.version "24"])]
    (document id [r]).compact = "\x7b\"scenarios\":[\x7b\"name\":\"a\",\"browsers\":\x7b" ++
      "\"x\":\x7b\"browserType\":\"CHROME\",\"scope\":\"LOCAL\",\"version\":\"24\"\x7d\x7d\x7d]\x7d" := by
  decide +kernel

end Scenario
end Lineup
