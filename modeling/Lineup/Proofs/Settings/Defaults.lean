import Lineup.Proofs.Document.Open
import Lineup.Proofs.Settings.Loading
import Lineup.Proofs.Toml.Members
import Mathlib

/-!
The settings of a document, key by key. Each setting is the one that stands under its
key in its section, or the default if the key is missing, whatever else the document
holds. So a section that is missing is as good as one that is empty, and keys that are
not known make no difference.
-/

namespace Lineup.Settings

open Document Steps
open Toml (Node)

/-- The sections of a document in which no key stands twice. A section that is missing is empty. -/
structure Sections (root scenarios media : List (String × Node)) : Prop where
  once : (root.map (·.1)).Nodup
  scenariosAt : At root "scenarios" (fun v l => v = .table l) [] scenarios
  mediaAt : At root "media" (fun v l => v = .table l) [] media
  scenariosOnce : (scenarios.map (·.1)).Nodup
  mediaOnce : (media.map (·.1)).Nodup

/-- The text that is written for a path. -/
def IsPath (v : Node) (p : Path) : Prop := v = .text p.text

/-- A path where there may be none. -/
def IsFile (v : Node) (o : Option Path) : Prop := ∃ p, o = some p ∧ IsPath v p

/-- The list of texts that is written for some paths. -/
def IsDirs (v : Node) (dirs : List Path) : Prop := v = .list (dirs.map fun d => .text d.text)

/-- Every setting is the one that stands under its key, or the default. -/
@[mk_iff]
structure Gives (scenarios media : List (String × Node)) (s : Settings) : Prop where
  file : At scenarios "file" IsFile none s.file
  resourceDirs : At scenarios "resource_dirs" IsDirs [⟨"."⟩, ⟨"tests/resources"⟩] s.resourceDirs
  testFiles : At media "test_files" IsPath ⟨"/var/lib/jenkins/test-files"⟩ s.testFiles

/-- What stands under the three keys is a text, a list of texts and a text. -/
structure Typed (scenarios media : List (String × Node)) : Prop where
  file : ∀ v, ("file", v) ∈ scenarios → ∃ t, v = .text t
  resourceDirs : ∀ v, ("resource_dirs", v) ∈ scenarios → ∃ l : List String, v = .list (l.map .text)
  testFiles : ∀ v, ("test_files", v) ∈ media → ∃ t, v = .text t

/-! ## Values -/

theorem readPath_eq_ok_iff {v : Node} {p : Path} :
    (readPath v : Except Toml.Fault Path) = .ok p ↔ IsPath v p := by
  rw [readPath, map_eq_ok_iff]
  constructor
  · rintro ⟨t, ht, rfl⟩
    cases v <;> cases ht
    rfl
  · rintro rfl
    exact ⟨p.text, rfl, rfl⟩

theorem readFile_eq_ok_iff {v : Node} {o : Option Path} :
    (readOptional readPath v : Except Toml.Fault (Option Path)) = .ok o ↔ IsFile v o := by
  have hthere : (readOptional readPath v : Except Toml.Fault (Option Path)) =
      some <$> readPath v := rfl
  rw [hthere, map_eq_ok_iff]
  simp only [readPath_eq_ok_iff]
  constructor
  · rintro ⟨p, hp, rfl⟩
    exact ⟨p, rfl, hp⟩
  · rintro ⟨p, rfl, hp⟩
    exact ⟨p, hp, rfl⟩

theorem readDirs_eq_ok_iff {v : Node} {dirs : List Path} :
    (readList readPath v : Except Toml.Fault (List Path)) = .ok dirs ↔ IsDirs v dirs := by
  rw [readList_eq_ok_iff]
  simp only [readPath_eq_ok_iff]
  constructor
  · rintro ⟨vs, ⟨items, hitems, -, hvs⟩, hall⟩
    have hlist : v = .list vs := by
      cases v <;> cases hitems
      rw [← hvs]
      simp [Function.comp_def]
    have htexts : vs.map id = dirs.map fun d => .text d.text := Pairing.map_eq (fun _ _ h => h) hall
    rw [hlist, IsDirs, ← htexts, List.map_id]
  · rintro rfl
    refine ⟨_, Node.answers_kinds.list rfl, ?_⟩
    rw [List.forall₂_map_left_iff, List.forall₂_same]
    exact fun _ _ => rfl

/-! ## Sections -/

section

variable {ν ε : Type} [Reading ν ε]

theorem governs_file : (scenariosRecord : Record ν ε Settings).Governs "file" Settings.file
    (readOptional readPath) :=
  Record.governs_of_members [] rfl rfl (List.forall_mem_nil _) (fun p s => { s with file := p })
    (fun _ => rfl) (fun _ _ => rfl)
    (List.forall_mem_singleton.mpr
      (Member.leaves_of_set (readList readPath) (fun l s => { s with resourceDirs := l })
        (fun _ => rfl) fun _ _ => rfl))

theorem governs_resourceDirs : (scenariosRecord : Record ν ε Settings).Governs "resource_dirs"
    Settings.resourceDirs (readList readPath) :=
  Record.governs_of_members [_] rfl rfl (List.forall_mem_singleton.mpr (by simp))
    (fun l s => { s with resourceDirs := l }) (fun _ => rfl) (fun _ _ => rfl)
    (List.forall_mem_singleton.mpr
      (Member.leaves_of_set (readOptional readPath) (fun p s => { s with file := p })
        (fun _ => rfl) fun _ _ => rfl))

theorem governs_testFiles : (mediaRecord : Record ν ε Settings).Governs "test_files"
    Settings.testFiles readPath :=
  Record.governs_of_members [] rfl rfl (List.forall_mem_nil _)
    (fun p s => { s with testFiles := p }) (fun _ => rfl) (fun _ _ => rfl) (List.forall_mem_nil _)

/-- What the root takes over from the first section. -/
def fromScenarios (t : Settings) : Option Path × List Path := (t.file, t.resourceDirs)

theorem governs_scenarios : (record : Record ν ε Settings).Governs "scenarios" fromScenarios
    fun v => fromScenarios <$> scenariosRecord.read {} v := by
  let set (a : Option Path × List Path) (s : Settings) : Settings :=
    { s with file := a.1, resourceDirs := a.2 }
  exact Record.governs_of_members [] rfl rfl (List.forall_mem_nil _) set
    (fun v => (Functor.map_map fromScenarios set (scenariosRecord.read {} v)).symm)
    (fun _ _ => rfl)
    (List.forall_mem_singleton.mpr
      (Member.leaves_of_set (mediaRecord.read {}) (fun t s => { s with testFiles := t.testFiles })
        (fun _ => rfl) fun _ _ => rfl))

theorem governs_media : (record : Record ν ε Settings).Governs "media" Settings.testFiles
    fun v => Settings.testFiles <$> mediaRecord.read {} v := by
  let set (p : Path) (s : Settings) : Settings := { s with testFiles := p }
  exact Record.governs_of_members [_] rfl rfl (List.forall_mem_singleton.mpr (by simp)) set
    (fun v => (Functor.map_map Settings.testFiles set (mediaRecord.read {} v)).symm)
    (fun _ _ => rfl)
    (List.forall_mem_singleton.mpr
      (Member.leaves_of_set (scenariosRecord.read {})
        (fun t s => { s with file := t.file, resourceDirs := t.resourceDirs }) (fun _ => rfl)
        fun _ _ => rfl))

end

variable {l root scenarios media : List (String × Node)} {s : Settings}

theorem maps_table (l : List (String × Node)) : Maps (Node.table l) l := Node.answers_kinds.map rfl

/-- The first section gives what stands under its two keys. -/
def GivesScenarios (l : List (String × Node)) (a : Option Path × List Path) : Prop :=
  ReadAt l "file" (readOptional readPath) none a.1 ∧
  ReadAt l "resource_dirs" (readList readPath) [⟨"."⟩, ⟨"tests/resources"⟩] a.2

/-- The second section gives what stands under its only key. -/
def GivesMedia (l : List (String × Node)) (p : Path) : Prop :=
  ReadAt l "test_files" readPath ⟨"/var/lib/jenkins/test-files"⟩ p

theorem gives_iff_read : Gives scenarios media s ↔
    GivesScenarios scenarios (fromScenarios s) ∧ GivesMedia media s.testFiles := by
  simp only [gives_iff, GivesScenarios, GivesMedia, ReadAt, readFile_eq_ok_iff,
    readDirs_eq_ok_iff, readPath_eq_ok_iff, and_assoc]
  rfl

theorem scenarios_iff (hd : (l.map (·.1)).Nodup) {a : Option Path × List Path} :
    (fromScenarios <$> scenariosRecord.read {} (Node.table l)) = .ok a ↔ GivesScenarios l a := by
  have hparts : ∀ {t}, scenariosRecord.read {} (Node.table l) = .ok t →
      GivesScenarios l (fromScenarios t) := fun ht =>
    ⟨governs_file.at_read_open (maps_table l) rfl ht,
      governs_resourceDirs.at_read_open (maps_table l) rfl ht⟩
  rw [map_eq_ok_iff]
  constructor
  · rintro ⟨t, ht, rfl⟩
    exact hparts ht
  · rintro ⟨hfile, hdirs⟩
    -- Only what stands under a known key has to be readable.
    have hreads : ∀ m ∈ l, m.1 ∈ (scenariosRecord : Record Node Toml.Fault Settings).names →
        ∃ c, scenariosRecord.Reads m c := by
      rintro ⟨key, v⟩ hm hknown
      rcases List.mem_pair.mp hknown with rfl | rfl
      · exact governs_file.reads hd hfile hm
      · exact governs_resourceDirs.reads hd hdirs hm
    obtain ⟨t, ht⟩ := Record.exists_read_open (s := {}) (maps_table l) rfl hd
      (by simp [scenariosRecord]) hreads
    obtain ⟨hfile', hdirs'⟩ := hparts ht
    exact ⟨t, ht, Prod.ext (hfile'.eq hd hfile) (hdirs'.eq hd hdirs)⟩

theorem media_iff (hd : (l.map (·.1)).Nodup) {p : Path} :
    (Settings.testFiles <$> mediaRecord.read {} (Node.table l)) = .ok p ↔ GivesMedia l p := by
  rw [map_eq_ok_iff]
  constructor
  · rintro ⟨t, ht, rfl⟩
    exact governs_testFiles.at_read_open (maps_table l) rfl ht
  · intro hfiles
    have hreads : ∀ m ∈ l, m.1 ∈ (mediaRecord : Record Node Toml.Fault Settings).names →
        ∃ c, mediaRecord.Reads m c := by
      rintro ⟨key, v⟩ hm hknown
      obtain rfl : key = "test_files" := List.mem_singleton.mp hknown
      exact governs_testFiles.reads hd hfiles hm
    obtain ⟨t, ht⟩ := Record.exists_read_open (s := {}) (maps_table l) rfl hd
      (by simp [mediaRecord]) hreads
    have hfiles' := governs_testFiles.at_read_open (maps_table l) rfl ht
    exact ⟨t, ht, hfiles'.eq hd hfiles⟩

/-- A section that is missing is read as one that is empty. -/
theorem section_iff {α : Type} {key : String} (read : Node → Except Toml.Fault α) {absent a : α}
    (hd : (root.map (·.1)).Nodup) (hl : At root key (fun v l => v = .table l) [] l)
    (hempty : read (.table []) = .ok absent) :
    ReadAt root key read absent a ↔ read (.table l) = .ok a := by
  rcases hl with ⟨v, hv, rfl⟩ | ⟨hnone, rfl⟩
  · constructor
    · intro h
      exact h.of_mem (P := fun v a => read v = .ok a) hd hv
    · intro h
      exact .inl ⟨_, hv, h⟩
  · rw [hempty]
    constructor
    · rintro (⟨v, hv, -⟩ | ⟨-, rfl⟩)
      · exact absurd (List.mem_map_of_mem hv) hnone
      · rfl
    · rintro h
      exact .inr ⟨hnone, (Except.ok.inj h).symm⟩

namespace Sections

variable (h : Sections root scenarios media)

include h

theorem atScenarios_iff {a : Option Path × List Path} :
    ReadAt root "scenarios" (fun v => fromScenarios <$> scenariosRecord.read {} v)
      (fromScenarios {}) a ↔ GivesScenarios scenarios a :=
  (section_iff (fun v => fromScenarios <$> scenariosRecord.read {} v) h.once
    h.scenariosAt rfl).trans (scenarios_iff h.scenariosOnce)

theorem atMedia_iff {p : Path} :
    ReadAt root "media" (fun v => Settings.testFiles <$> mediaRecord.read {} v)
      ({} : Settings).testFiles p ↔ GivesMedia media p :=
  (section_iff (fun v => Settings.testFiles <$> mediaRecord.read {} v) h.once
    h.mediaAt rfl).trans (media_iff h.mediaOnce)

theorem gives_of_read (hs : record.read {} (Node.table root) = .ok s) :
    Gives scenarios media s := by
  have hfirst := governs_scenarios.at_read_open (maps_table root) rfl hs
  have hsecond := governs_media.at_read_open (maps_table root) rfl hs
  exact gives_iff_read.mpr ⟨h.atScenarios_iff.mp hfirst, h.atMedia_iff.mp hsecond⟩

theorem gives_unique {s' : Settings} (hs : Gives scenarios media s)
    (hs' : Gives scenarios media s') : s = s' := by
  obtain ⟨⟨hfile, hdirs⟩, hfiles⟩ := gives_iff_read.mp hs
  obtain ⟨⟨hfile', hdirs'⟩, hfiles'⟩ := gives_iff_read.mp hs'
  have hfileEq : s.file = s'.file := hfile.eq h.scenariosOnce hfile'
  have hdirsEq : s.resourceDirs = s'.resourceDirs := hdirs.eq h.scenariosOnce hdirs'
  have hfilesEq : s.testFiles = s'.testFiles := ReadAt.eq h.mediaOnce hfiles hfiles'
  cases s
  cases s'
  simp_all

/-- **Settings of a document.** -/
theorem read_eq_ok_iff :
    record.read {} (Node.table root) = .ok s ↔ Gives scenarios media s := by
  refine ⟨h.gives_of_read, fun hs => ?_⟩
  obtain ⟨hfirst, hsecond⟩ := gives_iff_read.mp hs
  have hreads : ∀ m ∈ root, m.1 ∈ (record : Record Node Toml.Fault Settings).names →
      ∃ c, record.Reads m c := by
    rintro ⟨key, v⟩ hm hknown
    rcases List.mem_pair.mp hknown with rfl | rfl
    · exact governs_scenarios.reads h.once (h.atScenarios_iff.mpr hfirst) hm
    · exact governs_media.reads h.once (h.atMedia_iff.mpr hsecond) hm
  obtain ⟨s', hs'⟩ := Record.exists_read_open (s := {}) (maps_table root) rfl h.once
    (by simp [record]) hreads
  rw [hs', h.gives_unique hs (h.gives_of_read hs')]

theorem exists_gives_iff : (∃ s, Gives scenarios media s) ↔ Typed scenarios media := by
  constructor
  · rintro ⟨s, hs⟩
    refine ⟨fun v hv => ?_, fun v hv => ?_, fun v hv => ?_⟩
    · obtain ⟨p, -, hp⟩ := hs.file.of_mem h.scenariosOnce hv
      exact ⟨p.text, hp⟩
    · have hdirs := hs.resourceDirs.of_mem h.scenariosOnce hv
      refine ⟨s.resourceDirs.map (·.text), ?_⟩
      rw [hdirs, List.map_map]
      rfl
    · have hpath : IsPath v s.testFiles := hs.testFiles.of_mem h.mediaOnce hv
      exact ⟨s.testFiles.text, hpath⟩
  · rintro ⟨htext, htexts, htext'⟩
    have hfiles : ∀ v, ("file", v) ∈ scenarios → ∃ o, IsFile v o := by
      intro v hv
      obtain ⟨t, rfl⟩ := htext v hv
      exact ⟨some ⟨t⟩, ⟨t⟩, rfl, rfl⟩
    have hdirs : ∀ v, ("resource_dirs", v) ∈ scenarios → ∃ dirs, IsDirs v dirs := by
      intro v hv
      obtain ⟨l, rfl⟩ := htexts v hv
      refine ⟨l.map Path.mk, ?_⟩
      rw [IsDirs, List.map_map]
      rfl
    have hpaths : ∀ v, ("test_files", v) ∈ media → ∃ p, IsPath v p := by
      intro v hv
      obtain ⟨t, rfl⟩ := htext' v hv
      exact ⟨⟨t⟩, rfl⟩
    obtain ⟨file, hfile⟩ := (At.exists_iff h.scenariosOnce).mpr hfiles
    obtain ⟨dirs, hdirs⟩ := (At.exists_iff h.scenariosOnce).mpr hdirs
    obtain ⟨testFiles, htestFiles⟩ := (At.exists_iff h.mediaOnce).mpr hpaths
    exact ⟨⟨file, dirs, testFiles⟩, hfile, hdirs, htestFiles⟩

end Sections

/-! ## Documents -/

/-- The three keys that are known, with what stands under them, are the same in two documents. -/
structure SameKnown (scenarios media scenarios' media' : List (String × Node)) : Prop where
  file : ∀ v, ("file", v) ∈ scenarios ↔ ("file", v) ∈ scenarios'
  resourceDirs : ∀ v, ("resource_dirs", v) ∈ scenarios ↔ ("resource_dirs", v) ∈ scenarios'
  testFiles : ∀ v, ("test_files", v) ∈ media ↔ ("test_files", v) ∈ media'

theorem SameKnown.gives_iff {scenarios' media' : List (String × Node)}
    (h : SameKnown scenarios media scenarios' media') :
    Gives scenarios media s ↔ Gives scenarios' media' s := by
  rw [Settings.gives_iff, Settings.gives_iff, At.congr h.file, At.congr h.resourceDirs,
    At.congr h.testFiles]

section

variable {w : World Id} {p : Path} {text : String} {v : Node}

theorem loadFrom_eq_ok_iff (hread : w.read p = .ok text) (htext : Toml.ofText? text = some v) :
    (loadFrom w p).run = .ok s ↔ record.read {} v = .ok s := by
  rw [run_loadFrom, hread]
  change ofText text = .ok s ↔ _
  rw [ofText, mapError_eq_ok_iff, Toml.decode_eq_ok_iff, htext]
  simp

theorem loadFrom_eq_error (hread : w.read p = .ok text) {f : Failure}
    (hf : (loadFrom w p).run = .error f) : ∃ reason, f = .configParse reason := by
  rw [run_loadFrom, hread] at hf
  obtain ⟨reason, -, hf⟩ := ofText_eq_error_iff.mp hf
  exact ⟨reason, hf⟩

theorem load_of_isThere (hpath : path w = some p) (hthere : w.isThere p = true) :
    (load w).run = (loadFrom w p).run := by
  rw [run_load]
  simp only [hpath, hthere]

theorem load_of_not_isThere (h : ∀ p : Path, path w = some p → w.isThere p = false) :
    (load w).run = .ok {} := by
  rw [run_load]
  cases hpath : path w with
  | none => rfl
  | some p => simp only [h p hpath]

end

/-- **Defaults.** -/
theorem settings_default_one_by_one :
    (∀ root scenarios media, Sections root scenarios media →
      (∀ s, record.read {} (Node.table root) = .ok s ↔ Gives scenarios media s) ∧
      ((∃ s, record.read {} (Node.table root) = .ok s) ↔ Typed scenarios media) ∧
      ("file" ∉ scenarios.map (·.1) → "resource_dirs" ∉ scenarios.map (·.1) →
        "test_files" ∉ media.map (·.1) → record.read {} (Node.table root) = .ok {}) ∧
      ∀ root' scenarios' media', Sections root' scenarios' media' →
        SameKnown scenarios media scenarios' media' →
        ∀ s, record.read {} (Node.table root) = .ok s ↔ record.read {} (Node.table root') = .ok s) ∧
    (∀ (w : World Id) (p : Path) text v, w.read p = .ok text → Toml.ofText? text = some v →
      (∀ s, (loadFrom w p).run = .ok s ↔ record.read {} v = .ok s) ∧
      ∀ f, (loadFrom w p).run = .error f → ∃ reason, f = .configParse reason) ∧
    (∀ (w : World Id) (p : Path), path w = some p → w.isThere p = true →
      (load w).run = (loadFrom w p).run) ∧
    ∀ w : World Id, (∀ p : Path, path w = some p → w.isThere p = false) →
      (load w).run = .ok {} := by
  refine ⟨fun root scenarios media h => ⟨fun s => h.read_eq_ok_iff, ?typed, ?missing, ?extended⟩,
    fun w p text v hread htext => ⟨fun s => loadFrom_eq_ok_iff hread htext,
      fun f hf => loadFrom_eq_error hread hf⟩,
    fun w p hpath hthere => load_of_isThere hpath hthere, fun w h => load_of_not_isThere h⟩
  case typed => simp only [h.read_eq_ok_iff, h.exists_gives_iff]
  case missing =>
    intro hfile hdirs hfiles
    exact h.read_eq_ok_iff.mpr ⟨.inr ⟨hfile, rfl⟩, .inr ⟨hdirs, rfl⟩, .inr ⟨hfiles, rfl⟩⟩
  case extended =>
    intro root' scenarios' media' h' hsame s
    rw [h.read_eq_ok_iff, h'.read_eq_ok_iff, hsame.gives_iff]

def configPath : Path := ⟨"/etc/browser-matrix/config.toml"⟩

/-- A world with nothing but a settings file. -/
def worldWith (text : String) : World Id where
  variableOf _ := none
  configDir program := some ⟨"/etc/" ++ program⟩
  read p := if p = configPath then .ok text else .error .noSuchFile
  isFile p := decide (p = configPath)
  isThere p := decide (p = configPath)
  note _ := ()
  lines _ _ := some ""

/-- One setting among keys that are not known. -/
def partlySet : String :=
  "retries = 3\n[scenarios]\nfile = \"a.yaml\"\nvideo = [1]\n[log]\nlevel = 2\n"

def partlySetRoot : List (String × Node) :=
  [("retries", .integer 3),
    ("scenarios", .table [("file", .text "a.yaml"), ("video", .list [.integer 1])]),
    ("log", .table [("level", .integer 2)])]

theorem sections_partlySet : Sections partlySetRoot
    [("file", .text "a.yaml"), ("video", .list [.integer 1])] [] :=
  ⟨by decide, .inl ⟨_, by simp [partlySetRoot], rfl⟩, .inr ⟨by decide, rfl⟩, by decide, by decide⟩

/-- The same setting beside a section that is empty. -/
def onlySetRoot : List (String × Node) :=
  [("media", .table []), ("scenarios", .table [("file", .text "a.yaml")])]

theorem sections_onlySet : Sections onlySetRoot [("file", .text "a.yaml")] [] :=
  ⟨by decide, .inl ⟨_, by simp [onlySetRoot], rfl⟩, .inl ⟨_, by simp [onlySetRoot], rfl⟩,
    by decide, by decide⟩

theorem settings_default_one_by_one_partlySet :
    (load (worldWith partlySet)).run = .ok { file := some ⟨"a.yaml"⟩ } ∧
    record.read {} (Node.table onlySetRoot) = .ok { file := some ⟨"a.yaml"⟩ } ∧
    record.read {} (Node.table []) = .ok {} ∧
    (∃ reason, (loadFrom (worldWith "media = 3") configPath).run = .error (.configParse reason)) ∧
    (load { worldWith "" with isThere := fun _ => false }).run = .ok {} := by
  obtain ⟨hroot, hfile, hthere, hmissing⟩ := settings_default_one_by_one
  obtain ⟨hgives, -, -, hsame⟩ := hroot _ _ _ sections_partlySet
  have hset : record.read {} (Node.table partlySetRoot) = .ok { file := some ⟨"a.yaml"⟩ } :=
    (hgives _).mpr ⟨.inl ⟨_, List.mem_cons_self, _, rfl, rfl⟩, .inr ⟨by decide, rfl⟩,
      .inr ⟨by decide, rfl⟩⟩
  have htext : Toml.ofText? partlySet = some (.table partlySetRoot) := by cbv
  have hwrong : Toml.ofText? "media = 3" = some (.table [("media", .integer 3)]) := by cbv
  refine ⟨?there, ?same, ?nothing, ?wrong, hmissing _ fun _ _ => rfl⟩
  case there =>
    rw [hthere (worldWith partlySet) configPath rfl rfl]
    exact ((hfile _ _ _ _ rfl htext).1 _).mpr hset
  case same =>
    have hknown : SameKnown [("file", .text "a.yaml"), ("video", .list [.integer 1])] []
        [("file", .text "a.yaml")] [] := ⟨by simp, by simp, by simp⟩
    exact (hsame _ _ _ sections_onlySet hknown _).mp hset
  case nothing =>
    have hempty : Sections [] [] [] :=
      ⟨by decide, .inr ⟨by decide, rfl⟩, .inr ⟨by decide, rfl⟩, by decide, by decide⟩
    exact (hroot _ _ _ hempty).2.2.1 (by decide) (by decide) (by decide)
  case wrong =>
    cases hrun : (loadFrom (worldWith "media = 3") configPath).run with
    | ok s =>
      have hs := ((hfile _ _ _ _ rfl hwrong).1 s).mp hrun
      cases hs
    | error f =>
      obtain ⟨reason, rfl⟩ := (hfile _ _ _ _ rfl hwrong).2 f hrun
      exact ⟨reason, rfl⟩

end Lineup.Settings
