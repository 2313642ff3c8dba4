import Lineup.Proofs.Scenario.Contents
import Mathlib

/-!
The formats agree. A tree in which the parts of a scenario file are of the kinds that
the schema asks for is read alike in every format that shows it, level by level, whatever
is missing, unknown, wrong or too large in it.
-/

namespace Lineup.Scenario

open Browser Document Steps

/-! ## The shape of a file -/

def textNames : List String := ["browserType", "scope", "platform", "version", "video"]

def factorNames : List String := ["numInstances", "browserPerInstance"]

/-- Whatever a spec has members for is a text or an integer, as the member asks for. -/
def SpecShape (t : Outline) : Prop := ∃ ms, t = .map ms ∧ ∀ key v, (key, v) ∈ ms →
  (key ∈ textNames → ∃ s, v = .text s) ∧ (key ∈ factorNames → ∃ n, v = .integer n)

def RolesShape (t : Outline) : Prop := ∃ ms, t = .map ms ∧ ∀ role v, (role, v) ∈ ms → SpecShape v

def ScenarioShape (t : Outline) : Prop := ∃ ms, t = .map ms ∧
  (∀ v, ("name", v) ∈ ms → ∃ s, v = .text s) ∧ ∀ v, ("browsers", v) ∈ ms → RolesShape v

/-- Members of other names may be anything, at each level, and names may repeat. -/
def FileShape (t : Outline) : Prop := ∃ ms, t = .map ms ∧ ∀ v, ("scenarios", v) ∈ ms →
  ∃ items, v = .list items ∧ ∀ item ∈ items, ScenarioShape item

/-! ## Level by level -/

section

variable {ν ε : Type} [Reading ν ε] {k : Kinds ν} {v : ν} {t : Outline}

theorem maps_outline (ms : List (String × Outline)) : Maps (Outline.map ms) ms :=
  Outline.answers_kinds.map rfl

/-- Texts are read alike, as texts and as words. -/
theorem text_eq_ok_iff_of_shows (hk : k.Answers) {s : String} (h : k.Shows v (.text s))
    (expected s' : String) : (Reading.text expected v : Except ε String) = .ok s' ↔
      (Reading.text expected (Outline.text s) : Except Cause String) = .ok s' := by
  rw [hk.text h.isText, Outline.answers_kinds.text rfl, Except.ok.injEq, Except.ok.injEq]

theorem readWord_iff_of_shows {α : Type} [Vocabulary α] (hk : k.Answers) {s : String}
    (h : k.Shows v (.text s)) (a : α) :
    (readWord v : Except ε α) = .ok a ↔ (readWord (Outline.text s) : Except Cause α) = .ok a :=
  (hk.choice h.isText _ a).trans (Outline.answers_kinds.choice rfl _ a).symm

theorem readOptional_iff {α : Type} {read : ν → Except ε α} {read' : Outline → Except Cause α}
    (hv : Reading.optional v = .ok (some v))
    (hread : ∀ a, read v = .ok a ↔ read' t = .ok a) (o : Option α) :
    readOptional read v = .ok o ↔ readOptional read' t = .ok o := by
  have ht : (Reading.optional t : Except Cause (Option Outline)) = .ok (some t) := rfl
  rw [readOptional, readOptional, hv, ht]
  simp only [bind, Except.bind, map_eq_ok_iff, hread]

theorem readAlike_of_shows (hk : k.Answers) (h : k.Shows v t) {key : String}
    (htext : key ∈ textNames → ∃ s, t = .text s)
    (hinteger : key ∈ factorNames → ∃ n, t = .integer n) : ReadAlike key v t where
  kind hkey a := by
    obtain ⟨s, rfl⟩ := htext (by simp [textNames, hkey])
    exact readWord_iff_of_shows hk h a
  scope hkey a := by
    obtain ⟨s, rfl⟩ := htext (by simp [textNames, hkey])
    exact readWord_iff_of_shows hk h a
  platform hkey o := by
    obtain ⟨s, rfl⟩ := htext (by simp [textNames, hkey])
    exact readOptional_iff (hk.textThere h.isText) (readWord_iff_of_shows hk h) o
  version hkey o := by
    obtain ⟨s, rfl⟩ := htext (by simp [textNames, hkey])
    exact readOptional_iff (hk.textThere h.isText) (text_eq_ok_iff_of_shows hk h _) o
  video hkey o := by
    obtain ⟨s, rfl⟩ := htext (by simp [textNames, hkey])
    refine readOptional_iff (hk.textThere h.isText) (fun a => ?_) o
    simp only [readPath, map_eq_ok_iff, text_eq_ok_iff_of_shows hk h]
  factor hkey o := by
    obtain ⟨n, rfl⟩ := hinteger (by simpa [factorNames] using hkey)
    refine readOptional_iff (hk.integerThere h.isInteger) (fun a => ?_) o
    rw [hk.integer h.isInteger, Outline.answers_kinds.integer rfl, Except.ok.injEq, Except.ok.injEq]

theorem specOf_iff_of_shows (hk : k.Answers) (h : k.Shows v t) (ht : SpecShape t) (s : Spec) :
    SpecOf v s ↔ SpecOf t s := by
  obtain ⟨ts, rfl, hshape⟩ := ht
  obtain ⟨ms, hms, hcorr⟩ := h.isMap
  have hwrites : ∀ w, Writes ms w ↔ Writes ts w := fun w =>
    writes_iff_of_correspond hcorr fun key v v' hv' hshows =>
      readAlike_of_shows hk hshows (hshape key v' hv').1 (hshape key v' hv').2
  simp only [specOf_of_maps (hk.map hms), specOf_of_maps (maps_outline ts), hwrites]

theorem readRoleMap_iff_of_shows (hk : k.Answers) (h : k.Shows v t) (ht : RolesShape t)
    (roles : Keyed Spec) : readRoleMap v = .ok roles ↔ readRoleMap t = .ok roles := by
  obtain ⟨ts, rfl, hshape⟩ := ht
  obtain ⟨ms, hms, hcorr⟩ := h.isMap
  have hspecs := hcorr.congr (l := roles.entries) fun role v v' hv' hshows =>
    specOf_iff_of_shows hk hshows (hshape role v' hv')
  rw [readRoleMap_eq_ok_iff (hk.map hms), readRoleMap_eq_ok_iff (maps_outline ts), hasRoles_iff,
    hasRoles_iff, hcorr.nodup_iff, hspecs]

theorem readScenario_iff_of_shows (hk : k.Answers) (h : k.Shows v t) (ht : ScenarioShape t)
    (d : Definition) : definitionRecord.read ⟨"", ∅⟩ v = .ok d ↔
      definitionRecord.read ⟨"", ∅⟩ t = .ok d := by
  obtain ⟨ts, rfl, hname, hroles⟩ := ht
  obtain ⟨ms, hms, hcorr⟩ := h.isMap
  rw [read_definitionRecord_iff (hk.map hms), read_definitionRecord_iff (maps_outline ts),
    defines_iff, defines_iff]
  refine and_congr ?members <| and_congr ?name ?roles
  case members => exact ⟨hcorr.keys.symm.trans, hcorr.keys.trans⟩
  case name =>
    refine hcorr.exists_iff fun v v' hv' hshows => ?_
    obtain ⟨s, rfl⟩ := hname v' hv'
    exact text_eq_ok_iff_of_shows hk hshows _ _
  case roles =>
    exact hcorr.exists_iff fun v v' hv' hshows =>
      readRoleMap_iff_of_shows hk hshows (hroles v' hv') _

theorem readList_iff_of_shows {α : Type} {read : ν → Except ε α} {read' : Outline → Except Cause α}
    (hk : k.Answers) {items : List Outline} (h : k.Shows v (.list items))
    (hread : ∀ v, ∀ t ∈ items, k.Shows v t → ∀ a, read v = .ok a ↔ read' t = .ok a) (l : List α) :
    readList read v = .ok l ↔ readList read' (Outline.list items) = .ok l := by
  obtain ⟨vs, hvs, hall⟩ := h.isList
  rw [readList_of_elements (hk.list hvs), readList_of_elements (Outline.answers_kinds.list rfl)]
  have hpairs : List.Forall₂ (fun v t => ∀ a, read v = .ok a ↔ read' t = .ok a) vs items :=
    Pairing.imp_of_mem (fun v _ t ht hshows => hread v t ht hshows) hall
  constructor
  · intro hl
    exact forall₂_comp (fun ht hv => (ht _).mp hv) hpairs.flip hl
  · intro hl
    exact forall₂_comp (fun hv ht => (hv _).mpr ht) hpairs hl

/-- **One schema.** -/
theorem readFile_iff_of_shows (hk : k.Answers) (h : k.Shows v t) (ht : FileShape t)
    (file : List Definition) : readFile v = .ok file ↔ readFile t = .ok file := by
  obtain ⟨ts, rfl, hscenarios⟩ := ht
  obtain ⟨ms, hms, hcorr⟩ := h.isMap
  rw [readFile_of_maps (hk.map hms), readFile_of_maps (maps_outline ts), lists_iff, lists_iff]
  refine and_congr ?known <| and_congr hcorr.nodup_iff ?scenarios
  case known => exact forall_congr' fun key => imp_congr_left hcorr.keys.mem_iff
  case scenarios =>
    refine hcorr.at_iff fun v v' hv' hshows => ?_
    obtain ⟨items, rfl, hitems⟩ := hscenarios v' hv'
    exact readList_iff_of_shows hk hshows
      (fun v t ht hv => readScenario_iff_of_shows hk hv (hitems t ht)) _

end

/-! ## The formats -/

/-- A text whose document shows the tree, and which is in order to its end. -/
def Format.Delivers (f : Format) (text : String) (t : Outline) : Prop :=
  match f with
  | .json => Json.Node.kinds.Shows (Json.ofText text) t ∧ Json.closeText (Json.ofText text) = .ok ()
  | .yaml =>
    Yaml.Place.kinds.Shows (Yaml.Place.root (Yaml.ofText text).1) t ∧ (Yaml.ofText text).2 = true
  | .toml => ∃ v, Toml.ofText? text = some v ∧ Toml.Node.kinds.Shows v t

theorem readScenarios_iff_of_delivers {f : Format} {text : String} {t : Outline}
    (h : f.Delivers text t) (ht : FileShape t) (file : List Definition) :
    f.readScenarios text = .ok file ↔ readFile t = .ok file := by
  cases f with
  | json =>
    obtain ⟨hshows, hclose⟩ := h
    rw [readScenarios_json_eq_ok_iff, and_iff_left hclose]
    exact readFile_iff_of_shows Json.Node.answers_kinds hshows ht file
  | yaml =>
    obtain ⟨hshows, horder⟩ := h
    rw [readScenarios_yaml_eq_ok_iff, and_iff_left horder]
    exact readFile_iff_of_shows Yaml.Place.answers_kinds hshows ht file
  | toml =>
    obtain ⟨v, hv, hshows⟩ := h
    rw [readScenarios_toml_eq_ok_iff]
    simp only [hv, Option.some.injEq, exists_eq_left']
    exact readFile_iff_of_shows Toml.Node.answers_kinds hshows ht file

theorem toOption_eq_of_ok_iff {ε ε' α : Type} {x : Except ε α} {y : Except ε' α}
    (h : ∀ a, x = .ok a ↔ y = .ok a) : x.toOption = y.toOption := by
  cases x with
  | ok a =>
    rw [(h a).mp rfl]
    rfl
  | error e =>
    cases y with
    | ok a => cases (h a).mpr rfl
    | error e' => rfl

/-- **All formats.** -/
theorem formats_agree {t : Outline} (ht : FileShape t) : ∃ outcome : Option (List Definition),
    (∀ n : Json.Node, Json.Node.kinds.Shows n t → (readFile n).toOption = outcome) ∧
    (∀ p : Yaml.Place, Yaml.Place.kinds.Shows p t → (readFile p).toOption = outcome) ∧
    (∀ v : Toml.Node, Toml.Node.kinds.Shows v t → (readFile v).toOption = outcome) ∧
    ∀ (f : Format) (text : String), f.Delivers text t →
      (f.readScenarios text).toOption = outcome := by
  refine ⟨(readFile t).toOption, fun n hn => ?_, fun p hp => ?_, fun v hv => ?_,
    fun f text hf => ?_⟩
  · exact toOption_eq_of_ok_iff (readFile_iff_of_shows Json.Node.answers_kinds hn ht)
  · exact toOption_eq_of_ok_iff (readFile_iff_of_shows Yaml.Place.answers_kinds hp ht)
  · exact toOption_eq_of_ok_iff (readFile_iff_of_shows Toml.Node.answers_kinds hv ht)
  · exact toOption_eq_of_ok_iff (readScenarios_iff_of_delivers hf ht)

/-- A scenario with one role that stands for two browsers. -/
def twoViewers : Outline :=
  .map [("scenarios", .list [.map [("name", .text "pair"),
    ("browsers", .map [("viewer", .map [("numInstances", .integer 2)])])]])]

theorem fileShape_twoViewers : FileShape twoViewers := by
  refine ⟨_, rfl, ?_⟩
  simp [ScenarioShape, RolesShape, SpecShape, textNames, factorNames]

def twoViewersJson : String :=
  "\x7b\"scenarios\":[\x7b\"name\":\"pair\",\"browsers\":\x7b\"viewer\":"
    ++ "\x7b\"numInstances\":2\x7d\x7d\x7d]\x7d"

def twoViewersYaml : String :=
  "scenarios:\n- browsers:\n    viewer:\n      numInstances: 2\n  name: \"pair\"\n"

def twoViewersToml : String :=
  "[[scenarios]]\nname = \"pair\"\n[scenarios.browsers]\nviewer.numInstances = 2\n"

theorem delivers_twoViewersJson : Format.json.Delivers twoViewersJson twoViewers := by
  let rest (i : Nat) : Json.Rest := twoViewersJson.toList.drop i
  have htext : Json.ofText twoViewersJson =
      .object (rest 0) [⟨"scenarios", rest 12, .list (rest 13) [.object (rest 14)
        [⟨"name", rest 21, .scalar (rest 22) (rest 28) (.text "pair")⟩,
          ⟨"browsers", rest 39, .object (rest 40)
            [⟨"viewer", rest 49, .object (rest 50)
              [⟨"numInstances", rest 65, .scalar (rest 66) (rest 67) (.number (.integer 2))⟩]
              (.ok (rest 68))⟩] (.ok (rest 69))⟩] (.ok (rest 70))] (.ok (rest 71))⟩]
        (.ok (rest 72)) := by
    cbv
  refine ⟨?_, by cbv⟩
  rw [htext]
  refine Json.Node.shows_object ⟨_, .cons ⟨rfl, ?scenarios⟩ .nil, .refl _⟩
  refine .list ⟨_, _, rfl⟩ (.cons ?scenario .nil)
  refine Json.Node.shows_object ⟨_, .cons ⟨rfl, ?name⟩ (.cons ⟨rfl, ?roles⟩ .nil), .refl _⟩
  case name => exact .text ⟨_, _, rfl⟩
  refine Json.Node.shows_object ⟨_, .cons ⟨rfl, ?spec⟩ .nil, .refl _⟩
  refine Json.Node.shows_object ⟨_, .cons ⟨rfl, ?factor⟩ .nil, .refl _⟩
  exact .integer ⟨_, _, rfl⟩

theorem delivers_twoViewersYaml : Format.yaml.Delivers twoViewersYaml twoViewers := by
  have htext : Yaml.ofText twoViewersYaml =
      (.map none none [(.scalar none none .plain "scenarios", .list none none [.map none none
        [(.scalar none none .plain "browsers", .map none none
          [(.scalar none none .plain "viewer", .map none none
            [(.scalar none none .plain "numInstances", .scalar none none .plain "2")] true)] true),
          (.scalar none none .plain "name", .scalar none none .quoted "pair")] true] true)] true,
        true) := by
    cbv
  rw [Format.Delivers, htext]
  refine ⟨?_, rfl⟩
  refine Yaml.Place.shows_map (l := [("scenarios", _)]) rfl (.cons ⟨rfl, rfl⟩ .nil)
    ⟨_, .cons ⟨rfl, ?scenarios⟩ .nil, .refl _⟩
  refine .list ⟨none, _, rfl, rfl⟩ (.cons ?scenario .nil)
  refine Yaml.Place.shows_map (l := [("browsers", _), ("name", _)]) rfl
    (.cons ⟨rfl, rfl⟩ (.cons ⟨rfl, rfl⟩ .nil))
    ⟨_, .cons ⟨rfl, ?roles⟩ (.cons ⟨rfl, ?name⟩ .nil), .swap _ _ _⟩
  case name => exact .text ⟨none, .quoted, rfl, by decide⟩
  refine Yaml.Place.shows_map (l := [("viewer", _)]) rfl (.cons ⟨rfl, rfl⟩ .nil)
    ⟨_, .cons ⟨rfl, ?spec⟩ .nil, .refl _⟩
  refine Yaml.Place.shows_map (l := [("numInstances", _)]) rfl (.cons ⟨rfl, rfl⟩ .nil)
    ⟨_, .cons ⟨rfl, ?factor⟩ .nil, .refl _⟩
  exact .integer ⟨none, "2", rfl, rfl⟩

theorem delivers_twoViewersToml : Format.toml.Delivers twoViewersToml twoViewers := by
  refine ⟨.table [("scenarios", .list [.table [("name", .text "pair"), ("browsers", .table
    [("viewer", .table [("numInstances", .integer 2)])])]])], by cbv, ?_⟩
  refine Toml.Node.shows_table ⟨_, .cons ⟨rfl, ?scenarios⟩ .nil, .refl _⟩
  refine .list rfl (.cons ?scenario .nil)
  refine Toml.Node.shows_table ⟨_, .cons ⟨rfl, .text rfl⟩ (.cons ⟨rfl, ?roles⟩ .nil), .refl _⟩
  refine Toml.Node.shows_table ⟨_, .cons ⟨rfl, ?spec⟩ .nil, .refl _⟩
  exact Toml.Node.shows_table ⟨_, .cons ⟨rfl, .integer rfl⟩ .nil, .refl _⟩

theorem formats_agree_twoViewers :
    FileShape twoViewers ∧ Format.json.Delivers twoViewersJson twoViewers ∧
    Format.yaml.Delivers twoViewersYaml twoViewers ∧
    Format.toml.Delivers twoViewersToml twoViewers ∧
    ∃ file, Format.json.readScenarios twoViewersJson = .ok file ∧
      Format.yaml.readScenarios twoViewersYaml = .ok file ∧
      Format.toml.readScenarios twoViewersToml = .ok file := by
  refine ⟨fileShape_twoViewers, delivers_twoViewersJson, delivers_twoViewersYaml,
    delivers_twoViewersToml, ?_⟩
  obtain ⟨outcome, -, -, -, htexts⟩ := formats_agree fileShape_twoViewers
  have hsome : (Format.json.readScenarios twoViewersJson).toOption.isSome = true := by
    decide +kernel
  have hjson := htexts .json _ delivers_twoViewersJson
  have hyaml := htexts .yaml _ delivers_twoViewersYaml
  have htoml := htexts .toml _ delivers_twoViewersToml
  obtain ⟨file, hfile⟩ := Option.isSome_iff_exists.mp hsome
  rw [hjson] at hfile
  have hok {x : Except String (List Definition)} (hx : x.toOption = outcome) : x = .ok file := by
    rw [hfile] at hx
    cases x <;> cases hx
    rfl
  exact ⟨file, hok hjson, hok hyaml, hok htoml⟩

end Lineup.Scenario
