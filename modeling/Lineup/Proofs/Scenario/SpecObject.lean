import Lineup.Json.Answer
import Lineup.Proofs.Json.Members
import Lineup.Proofs.Scenario.SpecMembers
import Lineup.Proofs.Scenario.Document

/-!
A spec that is written as a JSON object. It is accepted exactly if it follows the
schema and its factors are within the limit, and the spec that it stands for does
not depend on the order of its members.
-/

namespace Lineup.Scenario

open Browser Document Json Steps

/-! ## Words -/

theorem Legible.lookup_iff {α : Type} [Vocabulary α] (hl : Legible α) {s : String} {a : α} :
    ((Vocabulary.all : List α).map fun a => (Vocabulary.word a, a)).lookup s = some a ↔
      s = Vocabulary.word a := by
  constructor
  · intro h
    obtain ⟨before, after, heq, -⟩ := List.lookup_eq_some_iff.mp h
    have hmem : (s, a) ∈ (Vocabulary.all : List α).map fun a => (Vocabulary.word a, a) := by
      rw [heq]
      exact List.mem_append_right _ List.mem_cons_self
    obtain ⟨a', -, heq⟩ := List.mem_map.mp hmem
    cases heq
    rfl
  · rintro rfl
    exact hl a

theorem readWord_eq_ok_iff {α : Type} [Vocabulary α] (hl : Legible α) {n : Node} {a : α} :
    (readWord n : Except Fault α) = .ok a ↔ n.IsWord (Vocabulary.word a) := by
  rw [readWord, Node.choice_eq_ok_iff]
  constructor
  · rintro ⟨s, hs, hlookup⟩
    rwa [hl.lookup_iff.mp hlookup] at hs
  · intro h
    exact ⟨_, h, hl a⟩

theorem readPath_eq_ok_iff {n : Node} {p : Path} :
    (readPath n : Except Fault Path) = .ok p ↔ n.IsText p.text := by
  rw [readPath, map_eq_ok_iff]
  constructor
  · rintro ⟨s, hs, rfl⟩
    exact (Node.text_eq_ok_iff _).mp hs
  · intro h
    exact ⟨p.text, (Node.text_eq_ok_iff _).mpr h, rfl⟩

/-! ## Objects that follow the schema -/

/-- The members of an object that follows the schema, and the written spec that they stand for.
Only a kind or a scope may not be `null`. -/
@[mk_iff]
structure SpecObject (members : List (Json.Member Node)) (w : WrittenSpec) : Prop where
  known : ∀ m ∈ members, m.key ∈ specNames
  once : (members.map (·.key)).Nodup
  kind : At (Node.pairs members) "browserType" (fun n (k : Kind) => n.IsWord k.word) .chrome w.kind
  scope : At (Node.pairs members) "scope" (fun n (s : Scope) => n.IsWord s.word) .beside w.scope
  platform : At (Node.pairs members) "platform"
    (Node.Perhaps fun n (p : Platform) => n.IsWord p.word) none w.platform
  version : At (Node.pairs members) "version" (Node.Perhaps Node.IsText) none w.version
  video : At (Node.pairs members) "video" (Node.Perhaps fun n (p : Path) => n.IsText p.text) none
    w.video
  instances : At (Node.pairs members) "numInstances" (Node.Perhaps Node.IsInteger) none w.instances
  perInstance : At (Node.pairs members) "browserPerInstance" (Node.Perhaps Node.IsInteger) none
    w.perInstance

theorem readPlatform_eq_ok_iff {n : Node} {p : Option Platform} :
    (readOptional readWord n : Except Fault (Option Platform)) = .ok p ↔
      n.Perhaps (fun n p => n.IsWord p.word) p :=
  Node.readOptional_eq_ok_iff (fun _ => readWord_eq_ok_iff legible_platform)
    fun _ h => h.optional_eq

theorem readText_eq_ok_iff {n : Node} {s : Option String} :
    (readOptional (Reading.text "a string") n : Except Fault (Option String)) = .ok s ↔
      n.Perhaps Node.IsText s :=
  Node.readOptional_eq_ok_iff (fun _ => Node.text_eq_ok_iff _) fun _ h => h.optional_eq

theorem readVideo_eq_ok_iff {n : Node} {p : Option Path} :
    (readOptional readPath n : Except Fault (Option Path)) = .ok p ↔
      n.Perhaps (fun n p => n.IsText p.text) p :=
  Node.readOptional_eq_ok_iff (fun _ => readPath_eq_ok_iff) fun _ h => h.optional_eq

theorem readFactor_eq_ok_iff {n : Node} {i : Option Int64} :
    (readOptional Reading.integer n : Except Fault (Option Int64)) = .ok i ↔
      n.Perhaps Node.IsInteger i :=
  Node.readOptional_eq_ok_iff (fun _ => Node.integer_eq_ok_iff) fun _ h => h.optional_eq

theorem writes_pairs_iff {members : List (Json.Member Node)} {w : WrittenSpec} :
    Writes (Node.pairs members) w ↔ SpecObject members w := by
  rw [writes_iff, specObject_iff, Node.keys_pairs]
  simp only [List.forall_mem_map, readWord_eq_ok_iff legible_kind,
    readWord_eq_ok_iff legible_scope, readPlatform_eq_ok_iff, readText_eq_ok_iff,
    readVideo_eq_ok_iff, readFactor_eq_ok_iff]
  rfl

/-! ## The spec of an object -/

/-- The spec that a written spec stands for: an empty version is none, and the number of
browsers per instance is cut at the limit. -/
structure WrittenSpec.Describes (w : WrittenSpec) (s : Spec) : Prop where
  kind : s.kind = w.kind
  scope : s.scope = w.scope
  platform : s.platform = w.platform
  version : s.version = w.version.filter (· ≠ "")
  video : s.video = w.video
  instances : (s.instances.toNat : Int) = w.exactInstances
  perInstance : (s.perInstance.toNat : Int) = min w.exactPerInstance Spec.limit

theorem WrittenSpec.describes_ofSettings {w : WrittenSpec} (h : w.Fits) :
    w.Describes (.ofSettings w.settings) := by
  have hplain : (Spec.ofSettings w.settings).kind = w.kind ∧
      (Spec.ofSettings w.settings).scope = w.scope ∧
      (Spec.ofSettings w.settings).platform = w.platform ∧
      (Spec.ofSettings w.settings).version = w.version.filter (· ≠ "") ∧
      (Spec.ofSettings w.settings).video = w.video := by
    unfold settings
    cases w.platform <;> cases w.version <;> cases w.video <;>
      exact ⟨rfl, rfl, rfl, rfl, rfl⟩
  obtain ⟨hkind, hscope, hplatform, hversion, hvideo⟩ := hplain
  have hone := w.one_le_exactPerInstance
  have hlimit : Spec.limit = 1024 := rfl
  refine ⟨hkind, hscope, hplatform, hversion, hvideo, ?_, ?_⟩
  · rw [toNat_instances_ofSettings h]
    exact Int.toNat_of_nonneg w.exactInstances_nonneg
  · rw [toNat_perInstance_ofSettings]
    exact Int.toNat_of_nonneg (by omega)

theorem WrittenSpec.Describes.unique {w : WrittenSpec} {s s' : Spec} (h : w.Describes s)
    (h' : w.Describes s') : s = s' := by
  have hinstances : s.instances = s'.instances :=
    UInt32.toNat_inj.mp (Int.ofNat_inj.mp (h.instances.trans h'.instances.symm))
  have hper : s.perInstance = s'.perInstance :=
    UInt32.toNat_inj.mp (Int.ofNat_inj.mp (h.perInstance.trans h'.perInstance.symm))
  have hkind := h.kind.trans h'.kind.symm
  have hscope := h.scope.trans h'.scope.symm
  have hplatform := h.platform.trans h'.platform.symm
  have hversion := h.version.trans h'.version.symm
  have hvideo := h.video.trans h'.video.symm
  cases s
  cases s'
  simp_all

theorem WrittenSpec.spec_eq_ok_iff_describes {w : WrittenSpec} {s : Spec} :
    w.spec = .ok s ↔ w.Fits ∧ w.Describes s := by
  rw [spec_eq_ok_iff]
  constructor
  · rintro ⟨hfits, rfl⟩
    exact ⟨hfits, describes_ofSettings hfits⟩
  · rintro ⟨hfits, hs⟩
    exact ⟨hfits, hs.unique (describes_ofSettings hfits)⟩

theorem readSpec_object_iff (report : Cause → Fault) (start rest : Rest)
    (members : List (Json.Member Node)) (s : Spec) :
    readSpec report (Node.object start members (.ok rest)) = .ok s ↔
      ∃ w, SpecObject members w ∧ w.Fits ∧ w.Describes s := by
  rw [readSpec_of_maps (Node.maps_object start rest members)]
  simp only [writes_pairs_iff, WrittenSpec.spec_eq_ok_iff_describes]

/-! ## The order of the members -/

theorem readAlike_of_same {n n' : Node} (h : n.Same n') (key : String) : ReadAlike key n n' where
  kind _ k := by rw [readWord_eq_ok_iff legible_kind, readWord_eq_ok_iff legible_kind, h.isWord_iff]
  scope _ s := by
    rw [readWord_eq_ok_iff legible_scope, readWord_eq_ok_iff legible_scope, h.isWord_iff]
  platform _ p := by
    rw [readPlatform_eq_ok_iff, readPlatform_eq_ok_iff]
    refine h.perhaps_iff fun q => ?_
    exact h.isWord_iff
  version _ t := by
    rw [readText_eq_ok_iff, readText_eq_ok_iff]
    exact h.perhaps_iff fun _ => h.isText_iff
  video _ p := by
    rw [readVideo_eq_ok_iff, readVideo_eq_ok_iff]
    refine h.perhaps_iff fun q => ?_
    exact h.isText_iff
  factor _ n := by
    rw [readFactor_eq_ok_iff, readFactor_eq_ok_iff]
    exact h.perhaps_iff fun _ => h.isInteger_iff

/-- Members in another order, or at other places, stand for the same written spec. -/
theorem specObject_iff_of_correspond {members members' : List (Json.Member Node)} {w : WrittenSpec}
    (h : Correspond Node.Same (Node.pairs members) (Node.pairs members')) :
    SpecObject members w ↔ SpecObject members' w := by
  rw [← writes_pairs_iff, ← writes_pairs_iff]
  exact writes_iff_of_correspond h fun key _ _ _ hsame => readAlike_of_same hsame key

/-- **Objects.** -/
theorem read_object_iff_follows (start rest : Rest) (members : List (Json.Member Node)) :
    (∀ report, (∃ s, readSpec report (Node.object start members (.ok rest)) = .ok s) ↔
      ∃ w, SpecObject members w ∧ w.Fits) ∧
    (∀ report s, readSpec report (Node.object start members (.ok rest)) = .ok s ↔
      ∃ w, SpecObject members w ∧ w.Fits ∧ w.Describes s) ∧
    (∀ start' rest' members', Correspond Node.Same (Node.pairs members) (Node.pairs members') →
      ∀ report report' s, readSpec report (Node.object start members (.ok rest)) = .ok s ↔
        readSpec report' (Node.object start' members' (.ok rest')) = .ok s) ∧
    ∀ text, ofText text = Node.object start members (.ok rest) → Node.skipBlank rest = [] →
      ∀ s, Format.decode readSpec .json text = .ok s ↔
        ∃ w, SpecObject members w ∧ w.Fits ∧ w.Describes s := by
  refine ⟨fun report => ?accepted, fun report s => readSpec_object_iff report start rest members s,
    fun start' rest' members' hm report report' s => ?permuted, fun text htext hrest s => ?text⟩
  case accepted =>
    simp only [readSpec_object_iff]
    constructor
    · rintro ⟨s, w, hw, hfits, -⟩
      exact ⟨w, hw, hfits⟩
    · rintro ⟨w, hw, hfits⟩
      exact ⟨_, w, hw, hfits, WrittenSpec.describes_ofSettings hfits⟩
  case permuted =>
    simp only [readSpec_object_iff, specObject_iff_of_correspond hm]
  case text =>
    have hclose : closeText (ofText text) = .ok () :=
      closeText_eq_ok_iff.mpr ⟨rest, by rw [htext]; rfl, hrest⟩
    change Json.decode readSpec text = .ok s ↔ _
    rw [Json.decode_eq_ok_iff, htext, ← htext, and_iff_left hclose, htext, readSpec_object_iff]

/-- A Firefox without a version, twice. -/
def firefoxMembers : List (Json.Member Node) :=
  [⟨"version", [], .scalar [] [] (.text "")⟩,
    ⟨"browserType", [], .object [] [⟨"FIREFOX", [], .scalar [] [] .null⟩] (.ok [])⟩,
    ⟨"numInstances", [], .scalar [] [] (.number (.integer 2))⟩]

theorem read_object_iff_follows_firefox : ∃ w s,
    SpecObject firefoxMembers w ∧ w.Fits ∧ w.Describes s ∧
    readSpec (.schema · none) (Node.object [] firefoxMembers (.ok [])) = .ok s ∧
    readSpec (.schema · none) (Node.object [] firefoxMembers.reverse (.ok [])) = .ok s := by
  obtain ⟨-, hread, hpermuted, -⟩ := read_object_iff_follows [] [] firefoxMembers
  obtain ⟨s, hs⟩ :
      ∃ s, readSpec (.schema · none) (Node.object [] firefoxMembers (.ok [])) = .ok s := ⟨_, rfl⟩
  obtain ⟨w, hw, hfits, hdescribes⟩ := (hread _ s).mp hs
  have hreverse : Correspond Node.Same (Node.pairs firefoxMembers)
      (Node.pairs firefoxMembers.reverse) :=
    ⟨_, List.forall₂_same.mpr fun _ _ => ⟨rfl, .refl _⟩, (List.reverse_perm _).symm.map _⟩
  exact ⟨w, s, hw, hfits, hdescribes, hs, (hpermuted _ _ _ hreverse _ _ s).mp hs⟩

end Lineup.Scenario
