import Lineup.Proofs.Keyed
import Lineup.Proofs.Scenario.Search
import Lineup.World.FileTree

/-!
Which scenario file a run uses. The first source of properties that names one decides, and
what it names is not looked at. If no source names one, the first directory that holds a
file of the default name decides. How the sources are layered makes no difference, and
neither do the directories after the one that holds the file.
-/

namespace Lineup

/-! ## Sources in their order -/

namespace Property.Source

/-- The sources that are not layers of others, from left to right. -/
def leaves : Source → List Source
  | layered first second => first.leaves ++ second.leaves
  | s => [s]

/-- A layered lookup is a search from left to right, in whatever way the layers are made. -/
theorem lookup_eq_findSome? (w : World Id) (key : String) (s : Source) :
    s.lookup w key = s.leaves.findSome? fun leaf => (leaf.lookup w key).run := by
  induction s with
  | environment => exact (List.findSome?_singleton ..).symm
  | map values => exact (List.findSome?_singleton ..).symm
  | settings s => exact (List.findSome?_singleton ..).symm
  | layered first second ih₁ ih₂ =>
    rw [leaves, List.findSome?_append, ← ih₁, ← ih₂, lookup]
    cases first.lookup w key <;> rfl

theorem layered_not_mem_leaves (first second s : Source) : layered first second ∉ s.leaves := by
  induction s with
  | environment => simp [leaves]
  | map values => simp [leaves]
  | settings s => simp [leaves]
  | layered first' second' ih₁ ih₂ => simp [leaves, ih₁, ih₂]

end Property.Source

namespace Scenario

open Property

/-- A source that is not a layer of others names a scenario file. An empty text in a map or in
the settings is a name, other than an empty variable. -/
inductive Names (w : World Id) : Source → String → Prop
  | environment {value : String} : w.variableOf "TEST_CONFIG_JSON" = some value → value ≠ "" →
      Names w .environment value
  | map {values : Keyed String} {value : String} : ("test.config.json", value) ∈ values.entries →
      Names w (.map values) value
  | settings {s : Settings} {path : Path} : s.file = some path → Names w (.settings s) path.text

/-- None of some sources names a scenario file. -/
def Silent (w : World Id) (sources : List Source) : Prop :=
  ∀ source ∈ sources, ∀ value, ¬ Names w source value

/-- The outcomes of a search. -/
inductive Search.Finds (w : World Id) (s : Search) : Except Failure Path → Prop
  | named {before after : List Source} {source : Source} {value : String} :
      s.properties.leaves = before ++ source :: after → Silent w before → Names w source value →
      Finds w s (.ok ⟨value⟩)
  | found {before after : List Path} {dir : Path} :
      Silent w s.properties.leaves → s.dirs = before ++ dir :: after →
      (∀ dir' ∈ before, w.isFile (dir'.join ⟨"test.conf.json"⟩) = false) →
      w.isFile (dir.join ⟨"test.conf.json"⟩) = true →
      Finds w s (.ok (dir.join ⟨"test.conf.json"⟩))
  | lost : Silent w s.properties.leaves →
      (∀ dir ∈ s.dirs, w.isFile (dir.join ⟨"test.conf.json"⟩) = false) →
      Finds w s (.error (.configLoad ⟨"test.conf.json"⟩
        ("not found in resource directories: " ++ ", ".intercalate (s.dirs.map Path.text))))

theorem names_iff_lookup {w : World Id} {leaf s : Source} (h : leaf ∈ s.leaves) {value : String} :
    Names w leaf value ↔ (leaf.lookup w scenarioFile).run = some value := by
  cases leaf with
  | environment =>
    change _ ↔ Option.filter (· ≠ "") (w.variableOf "TEST_CONFIG_JSON").run = some value
    rw [Option.filter_eq_some_iff, decide_eq_true_iff]
    constructor
    · intro hnames
      cases hnames with
      | environment hset hne => exact ⟨hset, hne⟩
    · rintro ⟨hset, hne⟩
      exact .environment hset hne
  | map values =>
    change _ ↔ values.find? "test.config.json" = some value
    rw [← Keyed.mem_entries_iff]
    constructor
    · intro hnames
      cases hnames with
      | map hentry => exact hentry
    · exact .map
  | settings settings =>
    change _ ↔ settings.file.map Path.text = some value
    rw [Option.map_eq_some_iff]
    constructor
    · intro hnames
      cases hnames with
      | settings hfile => exact ⟨_, hfile, rfl⟩
    · rintro ⟨path, hfile, rfl⟩
      exact .settings hfile
  | layered first second => exact absurd h (Source.layered_not_mem_leaves first second s)

theorem silent_iff {w : World Id} {s : Source} {sources : List Source} (h : sources ⊆ s.leaves) :
    Silent w sources ↔ ∀ leaf ∈ sources, (leaf.lookup w scenarioFile).run = none := by
  refine forall₂_congr fun leaf hleaf => ?_
  rw [Option.eq_none_iff_forall_ne_some]
  exact forall_congr' fun value => not_congr (names_iff_lookup (h hleaf))

theorem lookup_eq_none_iff {w : World Id} {s : Source} :
    (s.lookup w scenarioFile).run = none ↔ Silent w s.leaves := by
  rw [Source.lookup_eq_findSome?, silent_iff (List.Subset.refl _)]
  exact List.findSome?_eq_none_iff

theorem lookup_eq_some_iff {w : World Id} {s : Source} {value : String} :
    (s.lookup w scenarioFile).run = some value ↔ ∃ before source after,
      s.leaves = before ++ source :: after ∧ Silent w before ∧ Names w source value := by
  rw [Source.lookup_eq_findSome?]
  refine List.findSome?_eq_some_iff.trans ?_
  refine exists_congr fun before => exists_congr fun source => exists_congr fun after => ?_
  refine and_congr_right fun hsplit => ?_
  have hbefore : before ⊆ s.leaves := by
    rw [hsplit]
    exact List.subset_append_left _ _
  have hsource : source ∈ s.leaves := by
    rw [hsplit]
    exact List.mem_append_right _ List.mem_cons_self
  rw [silent_iff hbefore, names_iff_lookup hsource]
  exact and_comm

/-! ## The file that is found -/

section

variable {w : World Id} {name : Path} {dirs : List Path}

theorem find?_join_eq_none_iff :
    (dirs.map (·.join name)).find? (fun p => w.isFile p) = none ↔
      ∀ dir ∈ dirs, w.isFile (dir.join name) = false := by
  rw [List.find?_map, Option.map_eq_none_iff, List.find?_eq_none]
  exact forall₂_congr fun dir _ => Bool.not_eq_true _ ▸ Iff.rfl

theorem find?_join_eq_some_iff {path : Path} :
    (dirs.map (·.join name)).find? (fun p => w.isFile p) = some path ↔ ∃ before dir after,
      dirs = before ++ dir :: after ∧ (∀ dir' ∈ before, w.isFile (dir'.join name) = false) ∧
      w.isFile (dir.join name) = true ∧ path = dir.join name := by
  rw [List.find?_map, Option.map_eq_some_iff]
  constructor
  · rintro ⟨dir, hfind, rfl⟩
    obtain ⟨hfile, before, after, hsplit, hbefore⟩ := List.find?_eq_some_iff_append.mp hfind
    refine ⟨before, dir, after, hsplit, fun dir' hdir' => ?_, hfile, rfl⟩
    simpa using hbefore dir' hdir'
  · rintro ⟨before, dir, after, hsplit, hbefore, hfile, rfl⟩
    refine ⟨dir, List.find?_eq_some_iff_append.mpr ⟨hfile, before, after, hsplit, ?_⟩, rfl⟩
    intro dir' hdir'
    simpa using hbefore dir' hdir'

/-- A directory that holds the file ends the search for it. -/
theorem find?_join_append {w' : World Id} {before : List Path} {dir : Path}
    (after after' : List Path)
    (hsame : ∀ dir' ∈ before ++ [dir], w'.isFile (dir'.join name) = w.isFile (dir'.join name))
    (hfile : w.isFile (dir.join name) = true) :
    ∃ path, ((before ++ dir :: after').map (·.join name)).find? (fun p => w'.isFile p) = some path ∧
      ((before ++ dir :: after).map (·.join name)).find? (fun p => w.isFile p) = some path := by
  induction before with
  | nil =>
    have hfile' := (hsame dir (List.mem_append_right _ List.mem_cons_self)).trans hfile
    exact ⟨dir.join name, List.find?_cons_of_pos hfile', List.find?_cons_of_pos hfile⟩
  | cons first before ih =>
    have hfirst := hsame first List.mem_cons_self
    simp only [List.cons_append, List.map_cons, List.find?_cons, hfirst]
    cases w.isFile (first.join name) with
    | true => exact ⟨first.join name, rfl, rfl⟩
    | false => exact ih fun dir' hdir' => hsame dir' (List.mem_cons_of_mem _ hdir')

end

theorem lookup_congr {w w' : World Id}
    (h : w'.variableOf "TEST_CONFIG_JSON" = w.variableOf "TEST_CONFIG_JSON") (s : Source) :
    s.lookup w' scenarioFile = s.lookup w scenarioFile := by
  induction s with
  | environment => exact congrArg (Option.filter (· ≠ "")) h
  | map values => rfl
  | settings s => rfl
  | layered first second ih₁ ih₂ => rw [Source.lookup, Source.lookup, ih₁, ih₂]

theorem Search.resolve_iff_finds (w : World Id) (s : Search) (result : Except Failure Path) :
    (s.resolve w).run = result ↔ s.Finds w result := by
  rw [run_resolve, defaultName]
  constructor
  · rintro rfl
    cases hlookup : s.properties.lookup w scenarioFile with
    | some value =>
      obtain ⟨before, source, after, hsplit, hsilent, hnames⟩ := lookup_eq_some_iff.mp hlookup
      exact .named hsplit hsilent hnames
    | none =>
      have hsilent := lookup_eq_none_iff.mp hlookup
      dsimp only
      cases hfind : (s.dirs.map (·.join ⟨"test.conf.json"⟩)).find? fun p => w.isFile p with
      | some path =>
        obtain ⟨before, dir, after, hsplit, hbefore, hfile, rfl⟩ := find?_join_eq_some_iff.mp hfind
        exact .found hsilent hsplit hbefore hfile
      | none => exact .lost hsilent (find?_join_eq_none_iff.mp hfind)
  · intro hfinds
    cases hfinds with
    | named hsplit hsilent hnames =>
      rw [show s.properties.lookup w scenarioFile = some _ from
        lookup_eq_some_iff.mpr ⟨_, _, _, hsplit, hsilent, hnames⟩]
    | found hsilent hsplit hbefore hfile =>
      rw [show s.properties.lookup w scenarioFile = none from lookup_eq_none_iff.mpr hsilent]
      have hfind := find?_join_eq_some_iff.mpr ⟨_, _, _, hsplit, hbefore, hfile, rfl⟩
      rw [hfind]
    | lost hsilent hnone =>
      rw [show s.properties.lookup w scenarioFile = none from lookup_eq_none_iff.mpr hsilent]
      have hfind := find?_join_eq_none_iff.mpr hnone
      rw [hfind]

/-- **Finding.** A search has one outcome, for every world. It depends on the order of the sources
and not on how they are layered, and on no directory after one that holds the file. -/
theorem search_finds_first (w : World Id) (properties : Source) (dirs : List Path) :
    (∀ result, (Search.resolve w ⟨properties, dirs⟩).run = result ↔
      Search.Finds w ⟨properties, dirs⟩ result) ∧
    (∀ other : Source, other.leaves = properties.leaves →
      (Search.resolve w ⟨other, dirs⟩).run = (Search.resolve w ⟨properties, dirs⟩).run) ∧
    (∀ before dir after, dirs = before ++ dir :: after →
      w.isFile (dir.join ⟨"test.conf.json"⟩) = true → ∀ (w' : World Id) (after' : List Path),
      w'.variableOf "TEST_CONFIG_JSON" = w.variableOf "TEST_CONFIG_JSON" →
      (∀ dir' ∈ before ++ [dir], w'.isFile (dir'.join ⟨"test.conf.json"⟩) =
        w.isFile (dir'.join ⟨"test.conf.json"⟩)) →
      (Search.resolve w' ⟨properties, before ++ dir :: after'⟩).run =
        (Search.resolve w ⟨properties, dirs⟩).run) ∧
    (∀ working given p, (FileTree.world working given).isFile p = true ↔
      ∃ content, FileTree.find working p = .ok (.file content)) ∧
    ∀ s : Settings, Search.ofSettings w s =
      ⟨.layered .environment (.settings s), s.resourceDirs ++ (Settings.directory w).toList⟩ := by
  refine ⟨Search.resolve_iff_finds w _, ?_, ?_, ?_, fun s => rfl⟩
  · intro other hleaves
    rw [Search.run_resolve, Search.run_resolve, Source.lookup_eq_findSome?,
      Source.lookup_eq_findSome? w scenarioFile properties, hleaves]
  · rintro before dir after rfl hfile w' after' hvariable hsame
    obtain ⟨path, hpath', hpath⟩ := find?_join_append after after' hsame hfile
    simp only [Search.run_resolve, defaultName, lookup_congr hvariable, hpath', hpath]
  · intro working given p
    change FileTree.isFile working p = true ↔ _
    rw [FileTree.isFile]
    split
    · rename_i content hfind
      exact iff_of_true rfl ⟨content, hfind⟩
    · rename_i hfind
      refine iff_of_false Bool.false_ne_true ?_
      rintro ⟨content, hcontent⟩
      exact hfind content hcontent

-- An empty variable names no file. An empty text in a map names one, which is not looked at.
example :
    (Search.resolve (FileTree.world [] [("TEST_CONFIG_JSON", "")])
      ⟨.layered .environment (.map (.ofList [("test.config.json", "")])), []⟩).run =
      .ok ⟨""⟩ := by
  rfl

end Scenario
end Lineup
