import Lineup.Scenario.Format
import Lineup.Proofs.Path

/-!
Which format a path stands for. An extension counts if it is the one of the last
component, in upper or lower case. All else is JSON.
-/

namespace Lineup.Scenario

open Lineup.Path Lineup.Text

/-! ## Spellings -/

namespace Format

/-- The extensions of a format. JSON has none that would make a difference. -/
def spellings : Format → List String
  | json => []
  | yaml => ["yaml", "yml"]
  | toml => ["toml"]

theorem map_toLower_of_mem_spellings {f : Format} {s : String} (h : s ∈ f.spellings) :
    s.toList.map Char.toLower = s.toList := by
  revert s
  cases f with
  | json => decide
  | yaml => decide
  | toml => decide

theorem ofExtension?_eq_some_iff {e : String} {f : Format} :
    ofExtension? e = some f ↔ ∃ s ∈ f.spellings, SameButCase e.toList s.toList := by
  have hlower : (∃ s ∈ f.spellings, SameButCase e.toList s.toList) ↔
      String.ofList (e.toList.map Char.toLower) ∈ f.spellings := by
    constructor
    · rintro ⟨s, hs, hsame⟩
      rwa [hsame, map_toLower_of_mem_spellings hs, String.ofList_toList]
    · intro hs
      refine ⟨_, hs, ?_⟩
      rw [String.toList_ofList]
      exact (sameButCase_map_toLower e.toList).symm
  rw [hlower, ofExtension?]
  split
  · cases f <;> simp [spellings, *]
  · cases f <;> simp [spellings, *]
  · cases f <;> simp [spellings, *]
  · rename_i hyaml hyml htoml
    cases f with
    | json => simp [spellings]
    | yaml => simpa [spellings] using ⟨hyaml, hyml⟩
    | toml => simpa [spellings] using htoml

end Format

/-! ## Names and formats -/

/-- A name with one of some extensions, in any case of its letters. -/
def Marked (c : List Char) (extensions : List String) : Prop :=
  ∃ ext, HasExtension c ext ∧ ∃ s ∈ extensions, SameButCase ext s.toList

/-- A name that stands for no format of its own. -/
inductive Unmarked : List Char → Prop
  /-- Nothing is an extension. The root and the empty path have no name at all. -/
  | dotless {c : List Char} : '.' ∉ c → Unmarked c
  /-- A hidden file is all stem. -/
  | hidden {c : List Char} : '.' ∉ c → Unmarked ('.' :: c)
  | parent : Unmarked ['.', '.']
  /-- Behind a dot at the end stands an empty extension. -/
  | other {stem ext : List Char} : '.' ∉ ext →
      (∀ s ∈ ["yaml", "yml", "toml"], ¬ SameButCase ext s.toList) → Unmarked (stem ++ '.' :: ext)

variable {c : List Char}

theorem marked_append_iff {xs ys : List String} :
    Marked c (xs ++ ys) ↔ Marked c xs ∨ Marked c ys := by
  simp only [Marked, List.mem_append, or_and_right, exists_or, and_or_left]

theorem marked_map_toLower_iff {extensions : List String} :
    Marked (c.map Char.toLower) extensions ↔ Marked c extensions := by
  constructor
  · rintro ⟨_, hext, s, hs, hsame⟩
    obtain ⟨ext, hext', rfl⟩ := hasExtension_map_toLower_iff.mp hext
    exact ⟨ext, hext', s, hs, (sameButCase_map_toLower ext).symm.trans hsame⟩
  · rintro ⟨ext, hext, s, hs, hsame⟩
    exact ⟨_, hasExtension_map_toLower_iff.mpr ⟨ext, hext, rfl⟩, s, hs,
      (sameButCase_map_toLower ext).trans hsame⟩

theorem unmarked_iff_not_marked : Unmarked c ↔ ¬ Marked c ["yaml", "yml", "toml"] := by
  constructor
  · rintro hun ⟨ext, hext, s, hs, hsame⟩
    cases hun with
    | dotless hdot => exact not_hasExtension_of_dotless hdot hext
    | hidden hdot => exact not_hasExtension_of_hidden hdot hext
    | parent => exact hext.1 rfl
    | other hext' hnone =>
      obtain ⟨-, hdot, stem, -, hsplit⟩ := hext
      obtain ⟨-, rfl⟩ := split_at_last hext' hdot hsplit
      exact hnone s hs hsame
  · intro hnot
    by_cases hdot : '.' ∈ c
    · obtain ⟨stem, ext, rfl, hext⟩ := exists_split_at_last hdot
      by_cases hstem : stem = []
      · subst hstem
        exact .hidden hext
      by_cases hparent : stem ++ '.' :: ext = ['.', '.']
      · rw [hparent]
        exact .parent
      · exact .other hext fun s hs hsame =>
          hnot ⟨ext, ⟨hparent, hext, stem, hstem, rfl⟩, s, hs, hsame⟩
    · exact .dotless hdot

namespace Format

variable {p q : Path} {f : Format}

theorem ofPath_eq_iff_of_ne_json (hf : f ≠ json) (h : p.EndsIn c) :
    ofPath p = f ↔ Marked c f.spellings := by
  have hof : ofPath p = f ↔ ∃ e, p.extension? = some e ∧ ofExtension? e = some f := by
    rw [ofPath, ← Option.bind_eq_some_iff]
    cases p.extension?.bind ofExtension? with
    | none => simpa using hf.symm
    | some f' => simp
  rw [hof, Marked]
  constructor
  · rintro ⟨e, he, hfe⟩
    exact ⟨e.toList, h.extension?_eq_some_iff.mp he, ofExtension?_eq_some_iff.mp hfe⟩
  · rintro ⟨ext, hext, hs⟩
    refine ⟨String.ofList ext, ?_, ?_⟩
    · exact h.extension?_eq_some_iff.mpr (by rwa [String.toList_ofList])
    · exact ofExtension?_eq_some_iff.mpr (by rwa [String.toList_ofList])

theorem ofPath_eq_json_iff (h : p.EndsIn c) : ofPath p = json ↔ Unmarked c := by
  have hyaml : ofPath p = yaml ↔ Marked c ["yaml", "yml"] := ofPath_eq_iff_of_ne_json nofun h
  have htoml : ofPath p = toml ↔ Marked c ["toml"] := ofPath_eq_iff_of_ne_json nofun h
  have hmarked : Marked c ["yaml", "yml", "toml"] ↔ Marked c ["yaml", "yml"] ∨ Marked c ["toml"] :=
    @marked_append_iff c ["yaml", "yml"] ["toml"]
  rw [unmarked_iff_not_marked, hmarked, ← hyaml, ← htoml]
  cases ofPath p with
  | json => simp
  | yaml => simp
  | toml => simp

/-- Paths whose last components have the same extensions stand for the same format. -/
theorem ofPath_congr {c' : List Char} (hp : p.EndsIn c) (hq : q.EndsIn c')
    (h : ∀ extensions, Marked c' extensions ↔ Marked c extensions) : ofPath q = ofPath p := by
  -- Only the other formats are named by an extension. JSON is what is left if neither is.
  have hother : ∀ f, f ≠ json → (ofPath q = f ↔ ofPath p = f) := by
    intro f hf
    rw [ofPath_eq_iff_of_ne_json hf hp, ofPath_eq_iff_of_ne_json hf hq]
    exact h _
  by_cases hjson : ofPath p = json
  · by_contra hne
    have hq' : ofPath q ≠ json := fun he => hne (he.trans hjson.symm)
    exact hne ((hother _ hq').mp rfl).symm
  · exact (hother _ hjson).mpr rfl

theorem ofPath_eq_of_sameButCase (h : SameButCase p.text.toList q.text.toList) :
    ofPath q = ofPath p := by
  -- Both paths stand for the same format as the one in lower case.
  have hlower : ∀ r : Path, r.text.toList.map Char.toLower = p.text.toList.map Char.toLower →
      ofPath r = ofPath ⟨String.ofList (p.text.toList.map Char.toLower)⟩ := by
    intro r hr
    obtain ⟨c, hc⟩ := r.exists_endsIn
    refine (ofPath_congr hc (hc.map_toLower ?_) fun _ => marked_map_toLower_iff).symm
    rw [String.toList_ofList, hr]
  exact (hlower q h.symm).trans (hlower p rfl).symm

/-- **The format of a path.** The last component of a path decides on its format, which neither a
directory in front nor slashes behind nor the case of a letter can change. A directory before an
absolute path does not count. -/
theorem format_read_off_end (p : Path) :
    (∃! c, p.EndsIn c) ∧ ∀ c, p.EndsIn c →
      (ofPath p = yaml ↔ Marked c ["yaml", "yml"]) ∧
      (ofPath p = toml ↔ Marked c ["toml"]) ∧
      (ofPath p = json ↔ Unmarked c) ∧
      (c ≠ [] → c ≠ ['.'] → ∀ dir : Path, ofPath (dir.join p) = ofPath p) ∧
      (∀ rest, Trailing rest → ofPath ⟨p.text ++ String.ofList rest⟩ = ofPath p) ∧
      ∀ q : Path, SameButCase p.text.toList q.text.toList → ofPath q = ofPath p := by
  refine ⟨p.existsUnique_endsIn, fun c h => ⟨?_, ?_, ?_, ?_, ?_, ?_⟩⟩
  · exact ofPath_eq_iff_of_ne_json nofun h
  · exact ofPath_eq_iff_of_ne_json nofun h
  · exact ofPath_eq_json_iff h
  · intro hempty hdot dir
    exact ofPath_congr h (h.join hempty hdot dir) fun _ => Iff.rfl
  · intro rest hrest
    exact ofPath_congr h (h.append_trailing hrest (by simp)) fun _ => Iff.rfl
  · exact fun q => ofPath_eq_of_sameButCase

theorem format_read_off_end_grid :
    (⟨"old.toml/.Grid.YamL/./"⟩ : Path).EndsIn ".Grid.YamL".toList ∧
    ofPath ⟨"old.toml/.Grid.YamL/./"⟩ = yaml ∧
    ofPath (Path.join ⟨"conf.d"⟩ ⟨"old.toml/.Grid.YamL/./"⟩) = yaml ∧
    ofPath ⟨"old.toml/.Grid.YamL/./" ++ "/.//"⟩ = yaml ∧
    ofPath ⟨"old.toml/.Grid.YAML/./"⟩ = yaml := by
  have hend : (⟨"old.toml/.Grid.YamL/./"⟩ : Path).EndsIn ".Grid.YamL".toList :=
    @Path.EndsIn.behind _ _ "old.toml".toList "/./".toList (by decide) (by decide) (by decide)
      (by decide) (.dot (.slash .nothing))
  obtain ⟨-, hread⟩ := format_read_off_end ⟨"old.toml/.Grid.YamL/./"⟩
  obtain ⟨hyaml, -, -, hjoin, htrailing, hcase⟩ := hread _ hend
  have hext : Path.HasExtension ".Grid.YamL".toList "YamL".toList :=
    ⟨by decide, by decide, ".Grid".toList, by decide, by decide⟩
  have hformat := hyaml.mpr ⟨_, hext, "yaml", by decide, by decide⟩
  refine ⟨hend, hformat, ?_, ?_, ?_⟩
  · exact (hjoin (by decide) (by decide) ⟨"conf.d"⟩).trans hformat
  · exact (htrailing "/.//".toList (.dot (.slash (.slash .nothing)))).trans hformat
  · exact (hcase ⟨"old.toml/.Grid.YAML/./"⟩ (by decide)).trans hformat

-- A single dot is no name: the directory before it says which format it is.
example :
    ofPath ⟨"."⟩ = json ∧ ofPath (Path.join ⟨"grids.toml"⟩ ⟨"."⟩) = toml := by
  decide +kernel

end Format
end Lineup.Scenario
