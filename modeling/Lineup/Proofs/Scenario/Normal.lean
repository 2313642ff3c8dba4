import Lineup.Proofs.Browser.Settings
import Lineup.Proofs.Scenario.Contents
import Lineup.Proofs.Scenario.Limit
import Lineup.Proofs.Scenario.Reading
import Lineup.Proofs.Scenario.Rebuilding
import Lineup.Proofs.Scenario.SpecObject

/-!
Specs are normal whichever way they are made. What is read from a document is what
settings make of the values that are written there, once the factors are raised to
their least values and the second one is cut at the limit. So no browser has a version
that is empty.
-/

namespace Lineup.Scenario

open Browser Document Steps

/-! ## The settings of a written spec -/

/-- What is written, with factors that are neither too small nor beyond the limit. -/
def WrittenSpec.draft (w : WrittenSpec) : Draft where
  kind := w.kind
  scope := w.scope
  platform := w.platform
  version := w.version
  video := w.video
  instances := .ofNat w.exactInstances.toNat
  perInstance := .ofNat (min w.exactPerInstance Spec.limit).toNat

theorem WrittenSpec.describes_draft {w : WrittenSpec} (h : w.Fits) :
    w.Describes (.ofSettings w.draft.settings) := by
  have hlimit : Spec.limit = 1024 := rfl
  have hn := w.exactInstances_nonneg
  have hle := exactInstances_le h
  have hm := w.one_le_exactPerInstance
  -- The factors come last among the settings, so those before them do not matter.
  obtain ⟨hinstances, hper⟩ := factors_ofSettings
    ([.kind w.kind, .scope w.scope] ++ w.platform.toList.map .platform
      ++ w.version.toList.map .version ++ w.video.toList.map .video)
    (n := w.exactInstances.toNat) (m := (min w.exactPerInstance Spec.limit).toNat)
    (by omega) (by omega) (by omega)
  have hspec := w.draft.ofSettings_settings
  refine ⟨?kind, ?scope, ?platform, ?version, ?video, ?instances, ?perInstance⟩
  case instances => exact (congrArg Int.ofNat hinstances).trans (Int.toNat_of_nonneg hn)
  case perInstance => exact (congrArg Int.ofNat hper).trans (Int.toNat_of_nonneg (by omega))
  all_goals
    rw [hspec]
    rfl

/-- A written spec that fits stands for what its settings make. -/
theorem WrittenSpec.spec_eq_ok_iff_draft {w : WrittenSpec} {s : Spec} :
    w.spec = .ok s ↔ w.Fits ∧ s = .ofSettings w.draft.settings := by
  rw [spec_eq_ok_iff_describes]
  constructor
  · rintro ⟨hfits, hs⟩
    exact ⟨hfits, hs.unique (describes_draft hfits)⟩
  · rintro ⟨hfits, rfl⟩
    exact ⟨hfits, describes_draft hfits⟩

/-! ## What is read -/

/-- The settings of something written that fits make this spec. -/
def Stands (w : WrittenSpec) (s : Spec) : Prop := w.Fits ∧ s = .ofSettings w.draft.settings

theorem Stands.normal {w : WrittenSpec} {s : Spec} (h : Stands w s) : s.Normal := by
  rw [h.2]
  exact normal_of_settles (settles_ofSettings _)

theorem readSpec_iff_stands {ν ε : Type} [Reading ν ε] {report : Cause → ε} {v : ν} {s : Spec} :
    readSpec report v = .ok s ↔ ∃ w, specRecord.read {} v = .ok w ∧ Stands w s := by
  rw [readSpec_eq_ok_iff]
  simp only [WrittenSpec.spec_eq_ok_iff_draft, Stands]

/-- If of every node the one schema reads something that goes with what the other reads, so it
is with texts. -/
theorem Format.decode_iff {α β : Type}
    {read : {ν ε : Type} → [Reading ν ε] → (Cause → ε) → ν → Except ε α}
    {read' : {ν ε : Type} → [Reading ν ε] → (Cause → ε) → ν → Except ε β} {R : β → α → Prop}
    (h : ∀ {ν ε : Type} [Reading ν ε] (report : Cause → ε) (v : ν) (a : α),
      read report v = .ok a ↔ ∃ b, read' report v = .ok b ∧ R b a)
    (f : Format) (text : String) (a : α) :
    f.decode read text = .ok a ↔ ∃ b, f.decode read' text = .ok b ∧ R b a := by
  cases f with
  | json =>
    change Json.decode read text = .ok a ↔ ∃ b, Json.decode read' text = .ok b ∧ R b a
    simp only [Json.decode_eq_ok_iff, h, ← exists_and_right, and_right_comm]
  | yaml =>
    change Yaml.decode read text = .ok a ↔ ∃ b, Yaml.decode read' text = .ok b ∧ R b a
    simp only [Yaml.decode_eq_ok_iff, h, ← exists_and_right, and_right_comm]
  | toml =>
    change Toml.decode read text = .ok a ↔ ∃ b, Toml.decode read' text = .ok b ∧ R b a
    simp only [Toml.decode_eq_ok_iff, h]
    constructor
    · rintro ⟨v, hv, b, hb, hR⟩
      exact ⟨b, ⟨v, hv, hb⟩, hR⟩
    · rintro ⟨b, ⟨v, hv, hb⟩, hR⟩
      exact ⟨v, hv, b, hb, hR⟩

theorem readScenarios_stands {f : Format} {text : String} {file : List Definition}
    (h : f.readScenarios text = .ok file) :
    ∀ d ∈ file, ∀ e ∈ d.roles.entries, ∃ w, Stands w e.2 := by
  refine Format.decode_of_read
    (P := fun file => ∀ d ∈ file, ∀ e ∈ d.roles.entries, ∃ w, Stands w e.2)
    (fun _ v file hread => ?_) h
  refine readFile_forall (P := fun s => ∃ w, Stands w s) (fun report v s hs => ?_) hread
  obtain ⟨w, -, hw⟩ := readSpec_iff_stands.mp hs
  exact ⟨w, hw⟩

/-- **Normal specs.** -/
theorem specs_normal_however_made :
    (∀ l, (Spec.ofSettings l).Settles l ∧ (Spec.ofSettings l).Normal) ∧
    (∀ before a b after, a.part ≠ b.part →
      Spec.ofSettings (before ++ a :: b :: after) = .ofSettings (before ++ b :: a :: after)) ∧
    (∀ (ν ε : Type) [Reading ν ε] (report : Cause → ε) (v : ν) s, readSpec report v = .ok s →
      s.Normal ∧ ∃ w, specRecord.read {} v = .ok w ∧ s = .ofSettings w.draft.settings) ∧
    (∀ (f : Format) text s, f.decode readSpec text = .ok s →
      s.Normal ∧ ∃ w, f.decode (fun _ => specRecord.read {}) text = .ok w ∧
        s = .ofSettings w.draft.settings) ∧
    (∀ (f : Format) text file, f.readScenarios text = .ok file →
      ∀ d ∈ file, ∀ e ∈ d.roles.entries,
        e.2.Normal ∧ ∃ w : WrittenSpec, e.2 = .ofSettings w.draft.settings) ∧
    ∀ name calls, ∀ b ∈ ((Roster.fresh name).run calls).toList, b.version ≠ some "" := by
  refine ⟨fun l => ⟨settles_ofSettings l, normal_of_settles (settles_ofSettings l)⟩,
    fun before a b after h => ofSettings_swap before after h, fun ν ε _ report v s h => ?node,
    fun f text s h => ?text, fun f text file h d hd e he => ?file, fun name calls b hb => ?roster⟩
  case node =>
    obtain ⟨w, hw, hstands⟩ := readSpec_iff_stands.mp h
    exact ⟨hstands.normal, w, hw, hstands.2⟩
  case text =>
    obtain ⟨w, hw, hstands⟩ :=
      (Format.decode_iff (fun _ _ _ => readSpec_iff_stands) f text s).mp h
    exact ⟨hstands.normal, w, hw, hstands.2⟩
  case file =>
    obtain ⟨w, hstands⟩ := readScenarios_stands h d hd e he
    exact ⟨hstands.normal, w, hstands.2⟩
  case roster => exact ((Roster.accounted_fresh name).run calls).version_ne hb

/-- A spec of which nothing is taken as it is written. -/
def bareText : String :=
  "\x7b\"version\": \"\", \"numInstances\": -3, \"browserPerInstance\": 0\x7d"

def bareFile : String :=
  "\x7b\"scenarios\": [\x7b\"name\": \"\", \"browsers\": \x7b\"viewer\": " ++ bareText
    ++ "\x7d\x7d]\x7d"

theorem specs_normal_however_made_bare :
    Spec.ofSettings [.version "24", .kind .firefox, .version ""] =
      .ofSettings [.version "24", .version "", .kind .firefox] ∧
    (∃ report : Cause → Json.Fault, (Spec.ofSettings []).Normal ∧
      readSpec report (Json.ofText bareText) = .ok (.ofSettings [])) ∧
    (∃ w, Format.json.decode (fun _ => specRecord.read {}) bareText = .ok w ∧
      Spec.ofSettings [] = .ofSettings w.draft.settings) ∧
    (∃ file, Format.json.readScenarios bareFile = .ok file ∧
      ∀ d ∈ file, ∀ e ∈ d.roles.entries, e.2.Normal) ∧
    ∃ b ∈ ((Roster.fresh none).run [("viewer", .ofSettings [.version ""])]).toList,
      b.version ≠ some "" := by
  obtain ⟨-, hswap, hnode, htext, hfile, hroster⟩ := specs_normal_however_made
  have hread : readSpec (.schema · none) (Json.ofText bareText) = .ok (.ofSettings []) := by
    decide +kernel
  have hdecode : Format.json.decode readSpec bareText = .ok (.ofSettings []) := by decide +kernel
  have hscenarios : Format.json.readScenarios bareFile =
      .ok [⟨"", .ofList [("viewer", .ofSettings [])]⟩] := by
    decide +kernel
  have hviewer : ⟨"viewer", .chrome, .beside, none, none, none⟩ ∈
      ((Roster.fresh none).run [("viewer", .ofSettings [.version ""])]).toList := by
    decide +kernel
  refine ⟨hswap [.version "24"] (.kind .firefox) (.version "") [] (by decide),
    ⟨_, (hnode _ _ _ _ _ hread).1, hread⟩, (htext _ _ _ hdecode).2,
    ⟨_, hscenarios, fun d hd e he => (hfile _ _ _ hscenarios d hd e he).1⟩,
    _, hviewer, hroster _ _ _ hviewer⟩

end Lineup.Scenario
