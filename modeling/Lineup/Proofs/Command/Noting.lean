import Lineup.Proofs.Noting
import Lineup.Proofs.Command.Effect
import Lineup.Proofs.Scenario.Loading

/-!
Commands in a world that notes. They do what they do in the world itself, and what is
noted beside it matters little unless a scenario file has been loaded.
-/

namespace Lineup

open Scenario Property Steps

variable {P : Note → Prop}

/-! ## Questions that are not noted -/

section

variable (w : World Id)

theorem tells_lookup (key : String) (s : Source) :
    Tells P (s.lookup w key) (s.lookup w.noting key) := by
  induction s with
  | environment => exact (Tells.lift (w.variableOf _)).bind (.pure _)
  | map values => exact .pure _
  | settings s => exact .pure _
  | layered first second ih₁ ih₂ =>
    rw [Source.lookup, Source.lookup]
    refine ih₁.bind ?_
    cases (first.lookup w key).run with
    | some value => exact .pure _
    | none => exact ih₂

theorem tells_testFilesDir (s : Source) : Tells P (s.testFilesDir w) (s.testFilesDir w.noting) :=
  (tells_lookup w testFiles s).bind (.pure _)

theorem tells_findResource (name : Path) (dirs : List Path) :
    Tells P (findResource w name dirs) (findResource w.noting name dirs) := by
  induction dirs with
  | nil => exact .pure _
  | cons dir dirs ih =>
    rw [findResource, findResource]
    refine (Tells.lift (w.isFile (dir.join name))).bind ?_
    cases (w.isFile (dir.join name)).run with
    | true => exact .pure _
    | false => exact ih

theorem tells_ofSettings (s : Settings) :
    Tells P (Search.ofSettings w s) (Search.ofSettings w.noting s) := by
  have hdirs : Tells P (s.searchDirs w) (s.searchDirs w.noting) :=
    (Tells.lift (w.configDir "browser-matrix")).bind (.pure _)
  exact hdirs.bind (.pure _)

theorem tells_settings : Tells P (Settings.load w).run (Settings.load w.noting).run := by
  have hpath : Tells P (Settings.path w) (Settings.path w.noting) :=
    (Tells.lift (w.configDir "browser-matrix")).bind (.pure _)
  refine hpath.answer.andThen fun path _ => ?_
  cases path with
  | none => exact .pure _
  | some path =>
    refine (Tells.lift (w.isThere path)).answer.andThen fun there _ => ?_
    cases there with
    | false => exact .pure _
    | true =>
      refine (Tells.lift (w.read path)).answer.andThen fun content _ => ?_
      cases content with
      | ok text => exact .ofExcept _
      | error problem => exact .pure _

end

/-! ## What is noted -/

section

variable {w : World Id}

/-- A note that matters little. -/
def Minor (n : Note) : Prop := n.level = .debug

theorem tells_register (r : Roster) (specs : List (String × Browser.Spec)) :
    Tells Minor (r.register w specs).run (r.register w.noting specs).run := by
  refine .foldlM (fun r e => ?_) specs r
  refine (Tells.ofExcept (r.add e.1 e.2)).andThen fun grown _ => ?_
  have hminor : Minor (.registered r.name e.1 (e.2.expand e.1).length) := rfl
  exact (Tells.note w hminor).answer.andThen fun _ _ => .pure _

/-- Only a file that is found by its name is noted. -/
theorem tells_resolve (s : Search) :
    Tells (fun n => Minor n ∧ ∃ path, (s.resolve w).run = .ok path) (s.resolve w).run
      (s.resolve w.noting).run := by
  refine (tells_lookup w scenarioFile s.properties).answer.andThen fun value hvalue => ?_
  cases value with
  | some value =>
    have hresolve : (s.resolve w).run = .ok ⟨value⟩ := by
      have hvalue : s.properties.lookup w scenarioFile = some value := Except.ok.inj hvalue
      rw [Search.run_resolve, hvalue]
    exact (Tells.note w ⟨rfl, _, hresolve⟩).answer.andThen fun _ _ => .pure _
  | none =>
    refine (tells_findResource w defaultName s.dirs).answer.andThen fun found _ => ?_
    cases found with
    | some path => exact .pure _
    | none => exact .pure _

/-- Beside minor notes there is one at the end of a file that has been loaded. -/
theorem tells_load (path : Path) :
    Tells (fun n => Minor n ∨ ∃ l, (load w path).run = .ok l) (load w path).run
      (load w.noting path).run := by
  refine (Tells.lift (w.read path)).answer.andThen fun content hread => ?_
  cases content with
  | error problem => exact .pure _
  | ok text =>
    refine (Tells.ofExcept (definitions path text)).andThen fun defs hdefs => ?_
    have hregister : Tells Minor (defs.mapM (Definition.register w)).run
        (defs.mapM (Definition.register w.noting)).run :=
      .mapM (fun d => tells_register _ _) defs
    refine (hregister.mono fun _ => .inl).andThen fun rosters hrosters => ?_
    have hload : (load w path).run = .ok rosters := by
      have hread : w.read path = .ok text := Except.ok.inj hread
      rw [run_load, hread]
      rw [run_mapM (Definition.run_register w)] at hrosters
      exact bind_eq_ok_iff.mpr ⟨defs, hdefs, hrosters⟩
    exact (Tells.note w (.inr ⟨rosters, hload⟩)).answer.andThen fun _ _ => .pure _

/-- Nothing is noted of a name that no preset has. -/
theorem tells_preset (name : String) (dir : Path) :
    Tells (fun _ => ∃ l, (Preset.load w name dir).run = .ok l) (Preset.load w name dir).run
      (Preset.load w.noting name dir).run := by
  cases hsetups : Preset.setups? name dir with
  | none =>
    rw [Preset.load, Preset.load, hsetups]
    exact .pure _
  | some l =>
    have hload : ∃ l, (Preset.load w name dir).run = .ok l := by
      rw [Preset.run_load, Preset.byName, hsetups]
      exact Preset.exists_build hsetups
    have htells : Tells Minor (Preset.load w name dir).run (Preset.load w.noting name dir).run := by
      rw [Preset.load, Preset.load, hsetups]
      exact .mapM (fun s => tells_register (.named s.name) s.specs) l
    exact htells.mono fun _ _ => hload

end

/-! ## Commands -/

namespace Command

open Writing

section

variable {w : World Id}

theorem noted_print (color json : Bool) (l : List Roster) :
    Noted P (print color json l) (print color json l) :=
  .askThen (.ofExcept (rosters color json l)) fun texts _ => .writeAll texts

theorem noted_printLocated (s : Settings) :
    Noted (fun _ => ∃ path, found w s = .ok path) (printLocated w s) (printLocated w.noting s) := by
  refine .answerThen (tells_ofSettings w s)
    (.askThen ?_ fun path _ => .writeAll [path.text ++ "\n"])
  exact (tells_resolve _).mono fun _ h => h.2

theorem noted_printCompiled (color : Bool) (s : Settings) (file : Option Path) (json : Bool) :
    Noted (fun n => Minor n ∨ ∃ texts, pieces w color s (compile file json) = .ok texts)
      (printCompiled w color s file json) (printCompiled w.noting color s file json) := by
  cases file with
  | some path =>
    refine .askThen ((tells_load path).mono fun n => Or.imp_right ?_)
      fun l _ => noted_print color json l
    rintro ⟨l, hl⟩
    exact ⟨_, map_eq_ok_iff.mpr ⟨l, hl, rfl⟩⟩
  | none =>
    refine .answerThen (tells_ofSettings w s) (.askThen ?_ fun l _ => noted_print color json l)
    refine .andThen ((tells_resolve _).mono fun n h => .inl h.1) fun path hpath => ?_
    refine (tells_load path).mono fun n => Or.imp_right ?_
    rintro ⟨l, hl⟩
    exact ⟨_, bind_eq_ok_iff.mpr ⟨path, hpath, map_eq_ok_iff.mpr ⟨l, hl, rfl⟩⟩⟩

theorem noted_printPresets (color : Bool) (s : Settings) (name : Option String)
    (testFiles : Option Path) (json : Bool) :
    Noted (fun _ => ∃ texts, pieces w color s (presets name testFiles json) = .ok texts)
      (printPresets w color s name testFiles json)
      (printPresets w.noting color s name testFiles json) := by
  have hgiven (dir : Path) :
      Noted (fun _ => ∃ texts, pieces w color s (presets name (some dir) json) = .ok texts)
        (printPresets w color s name (some dir) json)
        (printPresets w.noting color s name (some dir) json) := by
    cases name with
    | none =>
      change Noted _ (ask (liftM (nameTexts color json Preset.names)) >>= Writing.writeAll)
        (ask (liftM (nameTexts color json Preset.names)) >>= Writing.writeAll)
      exact .askThen (.ofExcept _) fun texts _ => .writeAll texts
    | some name =>
      change Noted _ (ask (Preset.load w name dir) >>= print color json)
        (ask (Preset.load w.noting name dir) >>= print color json)
      refine .askThen ((tells_preset name dir).mono fun n => ?_) fun l _ => noted_print color json l
      rintro ⟨l, hl⟩
      rw [Preset.run_load] at hl
      exact ⟨_, map_eq_ok_iff.mpr ⟨l, hl, rfl⟩⟩
  cases testFiles with
  | some dir => exact hgiven dir
  | none =>
    have hdir := hgiven (mediaDir w s none)
    have hsame : pieces w color s (presets name (some (mediaDir w s none)) json) =
        pieces w color s (presets name none json) := by
      cases name <;> rfl
    rw [hsame] at hdir
    refine .answerThen (tells_testFilesDir w (.layered .environment (.settings s))) ?_
    rw [testFilesDir_eq]
    exact hdir

end

/-- The command that reads a scenario file. -/
def Compiles (c : Command) : Prop := ∃ file json, c = compile file json

/-- **Notes.** A command does in a world that notes what it does in the world itself. Before it
fails it notes nothing but what matters little, and nothing at all if it does not compile. -/
theorem tells_effect (w : World Id) (color : Bool) (c : Command) :
    Tells (fun n => Minor n ∧ Compiles c ∨ (c.effect w color).1 = .ok ()) (c.effect w color)
      (c.effect w.noting color) := by
  refine Noted.askThen (tells_settings w) (fun s hs => ?_) ""
  have heffect {texts : List String} (h : pieces w color s c = .ok texts) :
      (c.effect w color).1 = .ok () := by
    rw [effect_of_load_eq_ok hs, h]
    rfl
  cases c with
  | compile file json =>
    refine (noted_printCompiled color s file json).mono fun n h => ?_
    exact h.elim (fun hminor => .inl ⟨hminor, file, json, rfl⟩) fun ⟨_, h⟩ => .inr (heffect h)
  | presets name testFiles json =>
    exact (noted_printPresets color s name testFiles json).mono fun n ⟨_, h⟩ => .inr (heffect h)
  | locate =>
    refine (noted_printLocated s).mono fun n ⟨path, h⟩ => .inr ?_
    exact heffect (map_eq_ok_iff.mpr ⟨path, h, rfl⟩)

end Command
end Lineup
