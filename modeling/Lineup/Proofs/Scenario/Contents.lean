import Lineup.Scenario.Format
import Lineup.Proofs.Json.Members
import Lineup.Proofs.Scenario.Roles
import Lineup.Proofs.Toml.Members
import Lineup.Proofs.Yaml.Members

/-!
What a scenario file is read from. A scenario has a name and a role map, each exactly
once and nothing else; a file has a list of scenarios or nothing at all. Where the
levels of a file are maps, what is read are their contents, all of them and in their
order. A text is read as its document is.
-/

namespace Lineup.Scenario

open Browser Document Steps

variable {ν ε : Type} [Reading ν ε]

/-! ## Scenarios -/

/-- Members that stand for a scenario. -/
@[mk_iff]
structure Defines (ms : List (String × ν)) (d : Definition) : Prop where
  members : (ms.map (·.1)).Perm ["name", "browsers"]
  name : ∃ v, ("name", v) ∈ ms ∧ Reading.text "a string" v = .ok d.name
  roles : ∃ v, ("browsers", v) ∈ ms ∧ readRoleMap v = .ok d.roles

theorem governs_name : (definitionRecord : Record ν ε Definition).Governs "name" Definition.name
    (Reading.text "a string") :=
  Record.governs_of_members [] rfl rfl (List.forall_mem_nil _) (fun s d => { d with name := s })
    (fun _ => rfl) (fun _ _ => rfl)
    (List.forall_mem_singleton.mpr
      (Member.leaves_of_set readRoleMap (fun roles d => { d with roles }) (fun _ => rfl)
        fun _ _ => rfl))

theorem governs_roles : (definitionRecord : Record ν ε Definition).Governs "browsers"
    Definition.roles readRoleMap :=
  Record.governs_of_members [_] rfl rfl (List.forall_mem_singleton.mpr (by simp))
    (fun roles d => { d with roles }) (fun _ => rfl) (fun _ _ => rfl)
    (List.forall_mem_singleton.mpr
      (Member.leaves_of_set (Reading.text "a string") (fun s d => { d with name := s })
        (fun _ => rfl) fun _ _ => rfl))

variable {v : ν} {ms : List (String × ν)} {d d' : Definition}

theorem defines_of_gathers {d₀ : Definition} (h : definitionRecord.Gathers ms d₀ d) :
    Defines ms d := by
  obtain ⟨-, -, -, hneeded, -⟩ := id h
  have hname : "name" ∈ ms.map (·.1) := hneeded _ List.mem_cons_self rfl
  have hroles : "browsers" ∈ ms.map (·.1) :=
    hneeded _ (List.mem_cons_of_mem _ List.mem_cons_self) rfl
  refine ⟨?_, ?_, ?_⟩
  · refine (List.perm_ext_iff_of_nodup h.nodup (by decide)).mpr fun key => ?_
    constructor
    · intro hkey
      obtain ⟨m, hm, rfl⟩ := List.mem_map.mp hkey
      exact h.mem_names hm
    · intro hkey
      simp only [List.mem_cons, List.not_mem_nil, or_false] at hkey
      rcases hkey with rfl | rfl
      · exact hname
      · exact hroles
  · exact (governs_name.at_gathers h).resolve_right fun hnone => hnone.1 hname
  · exact (governs_roles.at_gathers h).resolve_right fun hnone => hnone.1 hroles

theorem Defines.nodup (h : Defines ms d) : (ms.map (·.1)).Nodup :=
  h.members.nodup_iff.mpr (by decide)

theorem Defines.unique (h : Defines ms d) (h' : Defines ms d') : d = d' := by
  obtain ⟨n, hn, hname⟩ := h.name
  obtain ⟨n', hn', hname'⟩ := h'.name
  obtain ⟨b, hb, hroles⟩ := h.roles
  obtain ⟨b', hb', hroles'⟩ := h'.roles
  rw [eq_of_mem_of_nodup h.nodup hn' hn] at hname'
  rw [eq_of_mem_of_nodup h.nodup hb' hb] at hroles'
  have hnames : d.name = d'.name := Except.ok.inj (hname.symm.trans hname')
  have hmaps : d.roles = d'.roles := Except.ok.inj (hroles.symm.trans hroles')
  cases d
  cases d'
  simp_all

theorem Defines.reads (h : Defines ms d) {m : String × ν} (hm : m ∈ ms) :
    ∃ c, definitionRecord.Reads m c := by
  obtain ⟨key, v⟩ := m
  have hkey : key ∈ ["name", "browsers"] := h.members.mem_iff.mp (List.mem_map_of_mem hm)
  simp only [List.mem_cons, List.not_mem_nil, or_false] at hkey
  rcases hkey with rfl | rfl
  · have hname : At ms "name" (fun v s => Reading.text "a string" v = .ok s) d.name d.name :=
      .inl h.name
    exact governs_name.reads h.nodup hname hm
  · have hroles : At ms "browsers" (fun v roles => readRoleMap v = .ok roles) d.roles d.roles :=
      .inl h.roles
    exact governs_roles.reads h.nodup hroles hm

theorem read_definitionRecord_iff (hv : Maps v ms) :
    definitionRecord.read ⟨"", ∅⟩ v = .ok d ↔ Defines ms d := by
  rw [Record.read_eq_ok_iff hv rfl]
  constructor
  · exact defines_of_gathers
  · intro h
    have hneeded : ∀ m ∈ (definitionRecord : Record ν ε Definition).members, m.needed = true →
        m.name ∈ ms.map (·.1) := by
      intro m hm _
      rw [h.members.mem_iff]
      exact List.mem_map_of_mem (f := (·.name)) hm
    obtain ⟨d', hd'⟩ := Record.exists_gathers h.nodup (fun m hm => h.reads hm) hneeded ⟨"", ∅⟩
    rwa [h.unique (defines_of_gathers hd')]

/-! ## Files -/

/-- Members that stand for the scenarios of a file. -/
@[mk_iff]
structure Lists (ms : List (String × ν)) (file : List Definition) : Prop where
  known : ∀ key ∈ ms.map (·.1), key = "scenarios"
  once : (ms.map (·.1)).Nodup
  scenarios : At ms "scenarios" (fun v l => readList (definitionRecord.read ⟨"", ∅⟩) v = .ok l) []
    file

theorem governs_scenarios : (fileRecord : Record ν ε (List Definition)).Governs "scenarios" id
    (readList (definitionRecord.read ⟨"", ∅⟩)) :=
  Record.governs_of_members [] rfl rfl (List.forall_mem_nil _) (fun l _ => l) (fun _ => rfl)
    (fun _ _ => rfl) (List.forall_mem_nil _)

variable {file : List Definition}

theorem lists_of_gathers (h : fileRecord.Gathers ms [] file) : Lists ms file where
  known := List.forall_mem_map.mpr fun _ hm => List.mem_singleton.mp (h.mem_names hm)
  once := h.nodup
  scenarios := governs_scenarios.at_gathers h

theorem readFile_of_maps (hv : Maps v ms) : readFile v = .ok file ↔ Lists ms file := by
  rw [readFile, Record.read_eq_ok_iff hv rfl]
  constructor
  · exact lists_of_gathers
  · intro h
    have hreads : ∀ m ∈ ms, ∃ c, (fileRecord : Record ν ε (List Definition)).Reads m c := by
      rintro ⟨key, v⟩ hm
      obtain rfl : key = "scenarios" := h.known _ (List.mem_map_of_mem hm)
      exact governs_scenarios.reads h.once h.scenarios hm
    have hneeded : ∀ m ∈ (fileRecord : Record ν ε (List Definition)).members, m.needed = true →
        m.name ∈ ms.map (·.1) := by
      simp [fileRecord]
    obtain ⟨file', hfile'⟩ := Record.exists_gathers h.once hreads hneeded []
    have heq : file = file' := by
      refine h.scenarios.unique h.once (fun v ha ha' => ?_) (lists_of_gathers hfile').scenarios
      exact Except.ok.inj (ha.symm.trans ha')
    rwa [heq]

/-! ## Levels that are maps -/

/-- A scenario that is a map, and whose role map is one. -/
def ScenarioLevel (v : ν) : Prop := ∃ es : Entries ν ε, IsMap v es ∧
  ∀ e ∈ es.entries, e.name "" = .ok "browsers" → ∃ roles : Entries ν ε, IsMap e.value roles

/-- A file that is a map, and whose scenarios are maps with role maps. -/
def FileLevel (v : ν) : Prop := ∃ es : Entries ν ε, IsMap v es ∧
  ∀ e ∈ es.entries, e.name "" = .ok "scenarios" → ∀ vs, Elements e.value vs →
    ∀ v ∈ vs, ScenarioLevel v

/-- A scenario has a name and a role map, and all roles of the latter. -/
def IsScenario (v : ν) (d : Definition) : Prop := ∃ ms : List (String × ν), Maps v ms ∧
  (ms.map (·.1)).Perm ["name", "browsers"] ∧
  (∃ n, ("name", n) ∈ ms ∧ Reading.text "a string" n = .ok d.name) ∧
  ∃ b, ("browsers", b) ∈ ms ∧ ∃ rs : List (String × ν), Maps b rs ∧ HasRoles rs d.roles

/-- A file has all scenarios of its list in their order, or none if there is no list. -/
def IsFile (v : ν) (file : List Definition) : Prop := ∃ ms : List (String × ν), Maps v ms ∧
  (∀ key ∈ ms.map (·.1), key = "scenarios") ∧ (ms.map (·.1)).Nodup ∧
  At ms "scenarios" (fun l file => ∃ vs, Elements l vs ∧ List.Forall₂ IsScenario vs file) [] file

theorem isScenario_of_read (hv : ScenarioLevel v)
    (h : definitionRecord.read ⟨"", ∅⟩ v = .ok d) : IsScenario v d := by
  obtain ⟨es, hes, hlevel⟩ := hv
  obtain ⟨ms, hms, hgathers⟩ := Record.gathers_of_read hes rfl h
  obtain ⟨hmembers, hname, b, hb, hroles⟩ := defines_of_gathers hgathers
  refine ⟨ms, ⟨es, hes, hms⟩, hmembers, hname, b, hb, ?_⟩
  obtain ⟨e, he, hhands⟩ := Pairing.exists_left hms.entries hb
  obtain ⟨rs, hrs⟩ := hlevel e he (hhands.name "")
  rw [hhands.value] at hrs
  obtain ⟨roles, hhanded⟩ := hands_of_readRoleMap hrs hroles
  have hmaps : Maps b roles := ⟨rs, hrs, hhanded⟩
  exact ⟨roles, hmaps, (readRoleMap_eq_ok_iff hmaps).mp hroles⟩

theorem read_of_isScenario (h : IsScenario v d) : definitionRecord.read ⟨"", ∅⟩ v = .ok d := by
  obtain ⟨ms, hms, hmembers, hname, b, hb, rs, hrs, hroles⟩ := h
  exact (read_definitionRecord_iff hms).mpr
    ⟨hmembers, hname, b, hb, (readRoleMap_eq_ok_iff hrs).mpr hroles⟩

/-- **Files.** -/
theorem readFile_eq_ok_iff (hv : FileLevel v) : readFile v = .ok file ↔ IsFile v file := by
  constructor
  · intro h
    obtain ⟨es, hes, hlevel⟩ := hv
    obtain ⟨ms, hms, hgathers⟩ := Record.gathers_of_read hes rfl h
    obtain ⟨hknown, honce, hscenarios⟩ := lists_of_gathers hgathers
    refine ⟨ms, ⟨es, hes, hms⟩, hknown, honce, hscenarios.imp_left ?_⟩
    rintro ⟨l, hl, hread⟩
    obtain ⟨e, he, hhands⟩ := Pairing.exists_left hms.entries hl
    obtain ⟨vs, hvs, hall⟩ := readList_eq_ok_iff.mp hread
    have hlevels : ∀ v ∈ vs, ScenarioLevel v :=
      hlevel e he (hhands.name "") vs (by rwa [hhands.value])
    refine ⟨l, hl, vs, hvs, Pairing.imp_of_mem (fun v hv d _ hd => ?_) hall⟩
    exact isScenario_of_read (hlevels v hv) hd
  · rintro ⟨ms, hms, hknown, honce, hscenarios⟩
    refine (readFile_of_maps hms).mpr ⟨hknown, honce, hscenarios.imp_left ?_⟩
    rintro ⟨l, hl, vs, hvs, hall⟩
    exact ⟨l, hl, readList_eq_ok_iff.mpr ⟨vs, hvs, hall.imp fun _ _ => read_of_isScenario⟩⟩

/-! ## Texts -/

section

variable {text : String}

theorem readScenarios_json_eq_ok_iff : Format.json.readScenarios text = .ok file ↔
    readFile (Json.ofText text) = .ok file ∧ Json.closeText (Json.ofText text) = .ok () := by
  change Json.decode (fun _ => readFile) text = _ ↔ _
  exact Json.decode_eq_ok_iff

theorem readScenarios_yaml_eq_ok_iff : Format.yaml.readScenarios text = .ok file ↔
    readFile (Yaml.Place.root (Yaml.ofText text).1) = .ok file ∧ (Yaml.ofText text).2 = true := by
  change Yaml.decode (fun _ => readFile) text = _ ↔ _
  exact Yaml.decode_eq_ok_iff

theorem readScenarios_toml_eq_ok_iff : Format.toml.readScenarios text = .ok file ↔
    ∃ v, Toml.ofText? text = some v ∧ readFile v = .ok file := by
  change Toml.decode (fun _ => readFile) text = _ ↔ _
  exact Toml.decode_eq_ok_iff

end

end Lineup.Scenario
