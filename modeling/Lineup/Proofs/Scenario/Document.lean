import Lineup.Roster.Basic
import Lineup.Roster.Written
import Lineup.Scenario.Format
import Lineup.Proofs.Json.Answer
import Lineup.Proofs.Keyed
import Lineup.Proofs.Scenario.Roles
import Lineup.Proofs.Scenario.WrittenSpec

/-!
Rosters as a scenario file: a scenario for each roster, and in it a role for each
browser, with what is written of the browser as its spec. Every JSON text of this
file is read as the scenarios that one expects.
-/

namespace Lineup

open Browser Document Json Steps

/-! ## Rosters as a document -/

variable (order : List (String × Value) → List (String × Value))

/-- What is written of a browser, but for its identifier. -/
def Browser.Instance.written (b : Instance) : Value :=
  .object (order (b.members.filter (·.1 ≠ "id")))

def Roster.written (r : Roster) : Value :=
  .object (order [("name", .ofOption r.name),
    ("browsers", .object (order (r.toList.map fun b => (b.id, b.written order))))])

/-- The scenario file for some rosters. The members of each object stand in some order. -/
def Scenario.document (rosters : List Roster) : Value :=
  .object (order [("scenarios", .list (rosters.map (Roster.written order)))])

/-- Members under different names are put into an order, be it the one that they have or the one
of their names, and none of them is left out. -/
def Reorders : Prop := ∀ ms, (ms.map (·.1)).Nodup → (order ms).Perm ms

theorem reorders_ordered : Reorders fun ms => (Keyed.ofList ms).entries :=
  fun _ hd => Keyed.entries_ofList_perm hd

variable {order}

theorem Reorders.depth_le (h : Reorders order) {ms : List (String × Value)} {d : Nat}
    (hd : (ms.map (·.1)).Nodup) (hms : ∀ m ∈ ms, m.2.depth ≤ d) :
    (Value.object (order ms)).depth ≤ d + 1 := by
  rw [Value.depth, Nat.add_le_add_iff_right, Value.depthMembers_le_iff]
  exact fun m hm => hms m ((h ms hd).mem_iff.mp hm)

namespace Browser

/-- The spec of a single browser. -/
def Instance.spec (b : Instance) : Spec :=
  Draft.spec { kind := b.kind, scope := b.scope, platform := b.platform, version := b.version,
               video := b.video }

theorem Instance.ids_spec (b : Instance) (base : String) : b.spec.ids base = [base] := by
  simp [spec, Draft.spec, Spec.ids, Spec.suffixes]

theorem Instance.count_spec (b : Instance) : b.spec.count = 1 := rfl

theorem Instance.instanceAt_spec {b : Instance} (h : b.version ≠ some "") :
    b.spec.instanceAt b.id = b := by
  have hversion : b.version.filter (· ≠ "") = b.version := by
    cases hv : b.version with
    | none => rfl
    | some v =>
      have hne : v ≠ "" := fun h0 => h (hv.trans (congrArg some h0))
      simp [hne]
  cases b
  exact congrArg (Instance.mk _ _ _ _ · _) hversion

end Browser

/-- The scenario that a roster is written as. -/
def Roster.definition (r : Roster) : Scenario.Definition :=
  ⟨r.name.getD "", .ofList (r.toList.map fun b => (b.id, b.spec))⟩

namespace Browser.Instance

theorem depth_of_mem_members {b : Instance} {m : String × Value} (h : m ∈ b.members) :
    m.2.depth = 0 := by
  have hmember : ∀ {name : String} {value : Option String}, m ∈ member name value →
      m.2.depth = 0 := by
    intro name value hm
    obtain ⟨s, -, rfl⟩ := List.mem_map.mp hm
    rfl
  simp only [members, List.mem_append, List.mem_cons, List.not_mem_nil, or_false] at h
  rcases h with (((rfl | rfl | rfl) | hm) | hm) | hm
  · rfl
  · rfl
  · rfl
  · exact hmember hm
  · exact hmember hm
  · exact hmember hm

theorem filter_member {name : String} (h : name ≠ "id") (value : Option String) :
    (member name value).filter (·.1 ≠ "id") = member name value := by
  refine List.filter_eq_self.mpr fun m hm => ?_
  obtain ⟨s, -, rfl⟩ := List.mem_map.mp hm
  exact decide_eq_true h

theorem filter_members (b : Instance) : b.members.filter (·.1 ≠ "id") =
    [("browserType", .text b.kind.word), ("scope", .text b.scope.word)] ++
      member "platform" (b.platform.map Platform.word) ++ member "version" b.version ++
      member "video" (b.video.map Path.text) := by
  rw [members, List.filter_append, List.filter_append, List.filter_append,
    filter_member (by decide), filter_member (by decide), filter_member (by decide)]
  rfl

theorem nodup_members (b : Instance) : (b.members.map (·.1)).Nodup := by
  cases hp : b.platform <;> cases hv : b.version <;> cases hf : b.video <;>
    simp [members, member, hp, hv, hf]

theorem nodup_filter_members (b : Instance) :
    ((b.members.filter (·.1 ≠ "id")).map (·.1)).Nodup :=
  b.nodup_members.sublist (List.filter_sublist.map _)

end Browser.Instance

/-- A roster that can be written as a scenario: it has a name, and its browsers have identifiers
of their own. -/
structure Roster.Writable (r : Roster) : Prop where
  name : r.name.isSome
  ids : (r.toList.map (·.id)).Nodup

theorem Roster.Writable.nodup {r : Roster} (h : r.Writable) {α : Type} (f : Instance → α) :
    ((r.toList.map fun b => (b.id, f b)).map (·.1)).Nodup := by
  rw [List.map_map]
  exact h.ids

namespace Scenario

/-- Lists and objects are nested at most five times. -/
theorem depth_document (h : Reorders order) {rosters : List Roster}
    (hrosters : ∀ r ∈ rosters, r.Writable) : (document order rosters).depth ≤ 5 := by
  have hspec : ∀ b : Instance, (b.written order).depth ≤ 1 := by
    intro b
    refine h.depth_le b.nodup_filter_members fun m hm => ?_
    exact (Instance.depth_of_mem_members (List.mem_of_mem_filter hm)).le
  have hroster : ∀ r ∈ rosters, (r.written order).depth ≤ 3 := by
    intro r hr
    refine h.depth_le (by simp) fun m hm => ?_
    rw [List.mem_pair] at hm
    rcases hm with rfl | rfl
    · cases r.name <;> exact Nat.zero_le 2
    · refine h.depth_le ((hrosters r hr).nodup _) fun m hm => ?_
      obtain ⟨b, -, rfl⟩ := List.mem_map.mp hm
      exact hspec b
  refine h.depth_le (by simp) fun m hm => ?_
  rw [List.mem_singleton] at hm
  subst hm
  rw [Value.depth, Nat.add_le_add_iff_right, Value.depthItems_le_iff]
  intro v hv
  obtain ⟨r, hr, rfl⟩ := List.mem_map.mp hv
  exact hroster r hr

/-! ## Specs -/

/-- Each word stands for the value that is written with it. -/
def Legible (α : Type) [Vocabulary α] : Prop := ∀ a : α,
  ((Vocabulary.all : List α).map fun a => (Vocabulary.word a, a)).lookup (Vocabulary.word a) = some a

theorem legible_kind : Legible Kind := fun k => by cases k <;> rfl

theorem legible_scope : Legible Scope := fun s => by cases s <;> rfl

theorem legible_platform : Legible Platform := fun p => by cases p <;> rfl

theorem readWord_of_holds {α : Type} [Vocabulary α] (hl : Legible α) {a : α} {n : Node}
    (h : Holds n (.text (Vocabulary.word a))) : (readWord n : Except Fault α) = .ok a :=
  h.choice_eq (hl a)

theorem readOptional_of_holds {α : Type} {read : Node → Except Fault α} {n : Node} {s : String}
    {a : α} (h : Holds n (.text s)) (hread : read n = .ok a) :
    readOptional read n = .ok (some a) := by
  rw [readOptional, h.optional_eq]
  simp only [bind, Except.bind, hread]
  rfl

/-- What the members that are written of a browser change in a written spec. -/
def changes (b : Instance) : List (String × (WrittenSpec → WrittenSpec)) :=
  [("browserType", fun w => { w with kind := b.kind }),
    ("scope", fun w => { w with scope := b.scope })] ++
  b.platform.toList.map (fun p => ("platform", fun w => { w with platform := some p })) ++
  b.version.toList.map (fun v => ("version", fun w => { w with version := some v })) ++
  b.video.toList.map (fun p => ("video", fun w => { w with video := some p }))

theorem nodup_changes (b : Instance) : ((changes b).map (·.1)).Nodup := by
  cases hp : b.platform <;> cases hv : b.version <;> cases hf : b.video <;>
    simp [changes, hp, hv, hf]

theorem commute_changes (b : Instance) : Record.Commute (changes b) := by
  cases hp : b.platform <;> cases hv : b.version <;> cases hf : b.video <;>
    simp [Record.Commute, changes, hp, hv, hf]

/-- The written spec of a single browser. -/
def single (b : Instance) : WrittenSpec :=
  { kind := b.kind, scope := b.scope, platform := b.platform, version := b.version,
    video := b.video }

theorem apply_changes (b : Instance) : Record.apply (changes b) {} = single b := by
  cases hp : b.platform <;> cases hv : b.version <;> cases hf : b.video <;>
    simp [Record.apply, changes, single, hp, hv, hf]

theorem understands_member {α : Type} {name : String} {value : Option α} {text : α → String}
    {set : α → WrittenSpec → WrittenSpec}
    (h : ∀ a, Understands specRecord (name, .text (text a)) (name, set a)) :
    List.Forall₂ (Understands specRecord) (Instance.member name (value.map text))
      (value.toList.map fun a => (name, set a)) := by
  cases value with
  | none => exact .nil
  | some a => exact .cons (h a) .nil

theorem understands_changes (b : Instance) :
    List.Forall₂ (Understands specRecord) (b.members.filter (·.1 ≠ "id")) (changes b) := by
  have hkind : Understands specRecord ("browserType", .text b.kind.word)
      ("browserType", fun w => { w with kind := b.kind }) :=
    understands_of_read rfl fun n hn =>
      map_eq_ok_iff.mpr ⟨_, readWord_of_holds legible_kind hn, rfl⟩
  have hscope : Understands specRecord ("scope", .text b.scope.word)
      ("scope", fun w => { w with scope := b.scope }) :=
    understands_of_read rfl fun n hn =>
      map_eq_ok_iff.mpr ⟨_, readWord_of_holds legible_scope hn, rfl⟩
  have hplatform : ∀ p : Platform, Understands specRecord ("platform", .text p.word)
      ("platform", fun w => { w with platform := some p }) := by
    refine fun p => understands_of_read rfl fun n hn => ?_
    have hword : (readWord n : Except Fault Platform) = .ok p :=
      readWord_of_holds legible_platform hn
    exact map_eq_ok_iff.mpr ⟨_, readOptional_of_holds hn hword, rfl⟩
  have hversion : ∀ v : String, Understands specRecord ("version", .text v)
      ("version", fun w => { w with version := some v }) :=
    fun v => understands_of_read rfl fun n hn =>
      map_eq_ok_iff.mpr ⟨_, readOptional_of_holds hn (hn.text_eq _), rfl⟩
  have hvideo : ∀ p : Path, Understands specRecord ("video", .text p.text)
      ("video", fun w => { w with video := some p }) := by
    refine fun p => understands_of_read rfl fun n hn => ?_
    have hpath : (readPath n : Except Fault Path) = .ok p :=
      map_eq_ok_iff.mpr ⟨_, hn.text_eq _, rfl⟩
    exact map_eq_ok_iff.mpr ⟨_, readOptional_of_holds hn hpath, rfl⟩
  rw [Instance.filter_members, changes]
  refine List.rel_append (List.rel_append (List.rel_append ?_ ?_) ?_) ?_
  · exact .cons hkind (.cons hscope .nil)
  · exact understands_member hplatform
  · have hversions : List.Forall₂ (Understands specRecord)
        (Instance.member "version" (b.version.map fun v => v)) _ := understands_member hversion
    rwa [Option.map_id'] at hversions
  · exact understands_member hvideo

theorem spec_single (b : Instance) : (single b).spec = .ok b.spec := by
  rw [WrittenSpec.spec_of_fits (.inl rfl)]
  cases hp : b.platform <;> cases hv : b.version <;> cases hf : b.video <;>
    simp only [single, Instance.spec, hp, hv, hf] <;> rfl

theorem readSpec_of_holds (h : Reorders order) {b : Instance} {n : Node}
    (hn : Holds n (b.written order)) (report : Cause → Fault) : readSpec report n = .ok b.spec := by
  have hread : specRecord.read {} n = .ok (Record.apply (changes b) {}) :=
    read_of_understands hn (h _ b.nodup_filter_members) (understands_changes b)
      (nodup_changes b) (commute_changes b) (by simp [specRecord]) {}
  rw [apply_changes] at hread
  rw [readSpec]
  exact bind_eq_ok_iff.mpr ⟨single b, hread, mapError_eq_ok_iff.mpr (spec_single b)⟩

/-! ## Scenarios -/

/-- The roles may stand in any order. -/
theorem readRoleMap_of_holds (h : Reorders order) {r : Roster} (hr : r.Writable) {n : Node}
    (hn : Holds n (.object (order (r.toList.map fun b => (b.id, b.written order))))) :
    readRoleMap n = .ok r.definition.roles := by
  obtain ⟨es, ⟨hes, report, hfinish⟩, hentries, -⟩ := hn.entries_eq
  have hspecs : List.Forall₂ (fun (m : String × Value) (c : String × Spec) =>
      ∀ e, HoldsEntry e m → Decodes e c)
      (r.toList.map fun b => (b.id, b.written order)) (r.toList.map fun b => (b.id, b.spec)) := by
    rw [List.forall₂_map_left_iff, List.forall₂_map_right_iff, List.forall₂_same]
    exact fun b _ e he => ⟨he.name _, readSpec_of_holds h he.value _⟩
  obtain ⟨cs, hcs, hperm⟩ := List.perm_comp_forall₂ (h _ (hr.nodup _)) hspecs
  have hkeys := hr.nodup Instance.spec
  have hread : readRoles ∅ es.entries = .ok (.ofList cs) :=
    readRoles_eq_ok_iff.mpr ⟨cs, forall₂_comp (fun he hm => hm _ he) hes hcs,
      (hperm.map _).nodup_iff.mpr hkeys, fun _ _ => List.not_mem_nil, rfl⟩
  rw [readRoleMap, hentries]
  simp only [bind, Except.bind, hread, hfinish]
  exact congrArg Except.ok (Keyed.ofList_eq_of_perm hperm hkeys)

theorem readScenario_of_holds (h : Reorders order) {r : Roster} (hr : r.Writable) {n : Node}
    (hn : Holds n (r.written order)) : definitionRecord.read ⟨"", ∅⟩ n = .ok r.definition := by
  obtain ⟨name, hname⟩ := Option.isSome_iff_exists.mp hr.name
  have hfirst : Understands definitionRecord ("name", .ofOption r.name)
      ("name", fun d => { d with name }) := by
    rw [hname]
    exact understands_of_read rfl fun n hn => map_eq_ok_iff.mpr ⟨_, hn.text_eq _, rfl⟩
  have hsecond : Understands definitionRecord
      ("browsers", .object (order (r.toList.map fun b => (b.id, b.written order))))
      ("browsers", fun d => { d with roles := r.definition.roles }) :=
    understands_of_read rfl fun n hn =>
      map_eq_ok_iff.mpr ⟨_, readRoleMap_of_holds h hr hn, rfl⟩
  rw [read_of_understands hn (h _ (by simp)) (.cons hfirst (.cons hsecond .nil)) (by simp)
    (by simp [Record.Commute]) (by simp [definitionRecord])]
  simp [Record.apply, Roster.definition, hname]

theorem readFile_of_holds (h : Reorders order) {rosters : List Roster}
    (hrosters : ∀ r ∈ rosters, r.Writable) {n : Node}
    (hn : Holds n (document order rosters)) :
    (readFile n : Except Fault (List Definition)) = .ok (rosters.map Roster.definition) := by
  have hscenarios : List.Forall₂
      (fun v d => ∀ n, Holds n v → definitionRecord.read ⟨"", ∅⟩ n = .ok d)
      (rosters.map (Roster.written order)) (rosters.map Roster.definition) := by
    rw [List.forall₂_map_left_iff, List.forall₂_map_right_iff, List.forall₂_same]
    exact fun r hr n hn => readScenario_of_holds h (hrosters r hr) hn
  have hlist : ∀ n, Holds n (.list (rosters.map (Roster.written order))) →
      (readList (definitionRecord.read ⟨"", ∅⟩) n : Except Fault (List Definition)) =
        .ok (rosters.map Roster.definition) := by
    intro n hn
    obtain ⟨items, hitems, ⟨report, hfinish⟩, hvalues⟩ := hn.items_eq "a sequence"
    have hread : (items.items.mapM fun item => definitionRecord.read ⟨"", ∅⟩ item.value) =
        (.ok (rosters.map Roster.definition) : Except Fault (List Definition)) :=
      mapM_eq_ok_iff.mpr (forall₂_comp (fun hv hread => hread _ hv) hvalues hscenarios)
    rw [readList, hitems]
    simp only [bind, Except.bind, hread, hfinish]
  have hmember : Understands fileRecord
      ("scenarios", .list (rosters.map (Roster.written order)))
      ("scenarios", fun _ => rosters.map Roster.definition) :=
    understands_of_read rfl fun n hn => map_eq_ok_iff.mpr ⟨_, hlist n hn, rfl⟩
  exact read_of_understands hn (h _ (by simp)) (.cons hmember .nil) (by simp) (by simp [Record.Commute])
    (by simp [fileRecord]) []

/-- **Reading back.** -/
theorem readScenarios_document (h : Reorders order) {rosters : List Roster}
    (hrosters : ∀ r ∈ rosters, r.Writable) {text : String}
    (htext : Spells (document order rosters) text.toList) :
    Format.json.readScenarios text = .ok (rosters.map Roster.definition) := by
  have hdepth : (document order rosters).depth ≤ 127 :=
    (depth_document h hrosters).trans (by decide)
  change decode (fun _ => readFile) text = _
  exact decode_of_spells htext hdepth fun n hn => readFile_of_holds h hrosters hn

end Scenario
end Lineup
