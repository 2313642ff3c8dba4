import Lineup.Scenario.Schema
import Lineup.Proofs.Document.Map

/-!
What a spec is read from. Its members may stand in any order, each of them at most
once and none of them unknown; a member that is missing leaves its part of the
written spec at the default.
-/

namespace Lineup.Scenario

open Browser Document Steps

variable {ν ε : Type} [Reading ν ε]

/-- The members that a spec may have. -/
def specNames : List String :=
  ["browserType", "scope", "platform", "version", "video", "numInstances", "browserPerInstance"]

/-- Members that stand for a written spec. -/
@[mk_iff]
structure Writes (ms : List (String × ν)) (w : WrittenSpec) : Prop where
  known : ∀ key ∈ ms.map (·.1), key ∈ specNames
  once : (ms.map (·.1)).Nodup
  kind : At ms "browserType" (fun v k => readWord v = .ok k) .chrome w.kind
  scope : At ms "scope" (fun v s => readWord v = .ok s) .beside w.scope
  platform : At ms "platform" (fun v p => readOptional readWord v = .ok p) none w.platform
  version : At ms "version" (fun v t => readOptional (Reading.text "a string") v = .ok t) none
    w.version
  video : At ms "video" (fun v p => readOptional readPath v = .ok p) none w.video
  instances : At ms "numInstances" (fun v n => readOptional Reading.integer v = .ok n) none
    w.instances
  perInstance : At ms "browserPerInstance" (fun v n => readOptional Reading.integer v = .ok n) none
    w.perInstance

/-! ## The parts of a written spec -/

/-- What a member changes is its own part. -/
theorem specRecord_keeps {m : Member ν ε WrittenSpec} (hm : m ∈ specRecord.members) {v : ν}
    {change : WrittenSpec → WrittenSpec} (h : m.read v = .ok change) (w : WrittenSpec) :
    (m.name ≠ "browserType" → (change w).kind = w.kind) ∧
    (m.name ≠ "scope" → (change w).scope = w.scope) ∧
    (m.name ≠ "platform" → (change w).platform = w.platform) ∧
    (m.name ≠ "version" → (change w).version = w.version) ∧
    (m.name ≠ "video" → (change w).video = w.video) ∧
    (m.name ≠ "numInstances" → (change w).instances = w.instances) ∧
    (m.name ≠ "browserPerInstance" → (change w).perInstance = w.perInstance) := by
  simp only [specRecord, List.mem_cons, List.not_mem_nil, or_false] at hm
  rcases hm with rfl | rfl | rfl | rfl | rfl | rfl | rfl <;>
    obtain ⟨a, -, rfl⟩ := map_eq_ok_iff.mp h <;> simp

theorem governs_kind :
    (specRecord : Record ν ε WrittenSpec).Governs "browserType" WrittenSpec.kind readWord :=
  ⟨⟨_, rfl, _, fun _ => rfl, fun _ _ => rfl⟩,
    fun _ hm hne _ _ h w => (specRecord_keeps hm h w).1 hne⟩

theorem governs_scope :
    (specRecord : Record ν ε WrittenSpec).Governs "scope" WrittenSpec.scope readWord :=
  ⟨⟨_, rfl, _, fun _ => rfl, fun _ _ => rfl⟩,
    fun _ hm hne _ _ h w => (specRecord_keeps hm h w).2.1 hne⟩

theorem governs_platform :
    (specRecord : Record ν ε WrittenSpec).Governs "platform" WrittenSpec.platform
      (readOptional readWord) :=
  ⟨⟨_, rfl, _, fun _ => rfl, fun _ _ => rfl⟩,
    fun _ hm hne _ _ h w => (specRecord_keeps hm h w).2.2.1 hne⟩

theorem governs_version :
    (specRecord : Record ν ε WrittenSpec).Governs "version" WrittenSpec.version
      (readOptional (Reading.text "a string")) :=
  ⟨⟨_, rfl, _, fun _ => rfl, fun _ _ => rfl⟩,
    fun _ hm hne _ _ h w => (specRecord_keeps hm h w).2.2.2.1 hne⟩

theorem governs_video :
    (specRecord : Record ν ε WrittenSpec).Governs "video" WrittenSpec.video
      (readOptional readPath) :=
  ⟨⟨_, rfl, _, fun _ => rfl, fun _ _ => rfl⟩,
    fun _ hm hne _ _ h w => (specRecord_keeps hm h w).2.2.2.2.1 hne⟩

theorem governs_instances :
    (specRecord : Record ν ε WrittenSpec).Governs "numInstances" WrittenSpec.instances
      (readOptional Reading.integer) :=
  ⟨⟨_, rfl, _, fun _ => rfl, fun _ _ => rfl⟩,
    fun _ hm hne _ _ h w => (specRecord_keeps hm h w).2.2.2.2.2.1 hne⟩

theorem governs_perInstance :
    (specRecord : Record ν ε WrittenSpec).Governs "browserPerInstance" WrittenSpec.perInstance
      (readOptional Reading.integer) :=
  ⟨⟨_, rfl, _, fun _ => rfl, fun _ _ => rfl⟩,
    fun _ hm hne _ _ h w => (specRecord_keeps hm h w).2.2.2.2.2.2 hne⟩

/-! ## Reading a spec -/

variable {ms : List (String × ν)} {w w' : WrittenSpec}

theorem writes_of_gathers (h : specRecord.Gathers ms {} w) : Writes ms w where
  known := List.forall_mem_map.mpr fun _ hm => h.mem_names hm
  once := h.nodup
  kind := governs_kind.at_gathers h
  scope := governs_scope.at_gathers h
  platform := governs_platform.at_gathers h
  version := governs_version.at_gathers h
  video := governs_video.at_gathers h
  instances := governs_instances.at_gathers h
  perInstance := governs_perInstance.at_gathers h

namespace Writes

theorem unique (h : Writes ms w) (h' : Writes ms w') : w = w' := by
  have hread : ∀ {α : Type} {read : ν → Except ε α} {a a' : α} (v : ν),
      read v = .ok a → read v = .ok a' → a = a' :=
    fun _ ha ha' => Except.ok.inj (ha.symm.trans ha')
  have hkind := h.kind.unique h.once hread h'.kind
  have hscope := h.scope.unique h.once hread h'.scope
  have hplatform := h.platform.unique h.once hread h'.platform
  have hversion := h.version.unique h.once hread h'.version
  have hvideo := h.video.unique h.once hread h'.video
  have hinstances := h.instances.unique h.once hread h'.instances
  have hper := h.perInstance.unique h.once hread h'.perInstance
  cases w
  cases w'
  simp_all

theorem reads (h : Writes ms w) {m : String × ν} (hm : m ∈ ms) : ∃ c, specRecord.Reads m c := by
  obtain ⟨key, v⟩ := m
  have hkey := h.known _ (List.mem_map_of_mem hm)
  simp only [specNames, List.mem_cons, List.not_mem_nil, or_false] at hkey
  rcases hkey with rfl | rfl | rfl | rfl | rfl | rfl | rfl
  · exact governs_kind.reads h.once h.kind hm
  · exact governs_scope.reads h.once h.scope hm
  · exact governs_platform.reads h.once h.platform hm
  · exact governs_version.reads h.once h.version hm
  · exact governs_video.reads h.once h.video hm
  · exact governs_instances.reads h.once h.instances hm
  · exact governs_perInstance.reads h.once h.perInstance hm

end Writes

theorem read_specRecord_iff {v : ν} (hv : Maps v ms) :
    specRecord.read {} v = .ok w ↔ Writes ms w := by
  rw [Record.read_eq_ok_iff hv rfl]
  constructor
  · exact writes_of_gathers
  · intro h
    have hneeded : ∀ m ∈ (specRecord : Record ν ε WrittenSpec).members, m.needed = true →
        m.name ∈ ms.map (·.1) := by
      simp [specRecord]
    obtain ⟨w', hw'⟩ := Record.exists_gathers h.once (fun m hm => h.reads hm) hneeded {}
    rwa [h.unique (writes_of_gathers hw')]

/-- What is read does not depend on how causes are reported. -/
theorem readSpec_eq_ok_iff {v : ν} {report : Cause → ε} {s : Spec} :
    readSpec report v = .ok s ↔ ∃ w, specRecord.read {} v = .ok w ∧ w.spec = .ok s := by
  rw [readSpec, bind_eq_ok_iff]
  simp only [mapError_eq_ok_iff]

/-! ## Members that are read alike -/

/-- Two values are read alike by the member of this name. -/
structure ReadAlike {ν' ε' : Type} [Reading ν' ε'] (key : String) (v : ν) (v' : ν') : Prop where
  kind : key = "browserType" → ∀ k : Kind, readWord v = .ok k ↔ readWord v' = .ok k
  scope : key = "scope" → ∀ s : Scope, readWord v = .ok s ↔ readWord v' = .ok s
  platform : key = "platform" → ∀ p : Option Platform,
    readOptional readWord v = .ok p ↔ readOptional readWord v' = .ok p
  version : key = "version" → ∀ t, readOptional (Reading.text "a string") v = .ok t ↔
    readOptional (Reading.text "a string") v' = .ok t
  video : key = "video" → ∀ p, readOptional readPath v = .ok p ↔ readOptional readPath v' = .ok p
  factor : key = "numInstances" ∨ key = "browserPerInstance" → ∀ n,
    readOptional Reading.integer v = .ok n ↔ readOptional Reading.integer v' = .ok n

theorem writes_iff_of_correspond {ν' ε' : Type} [Reading ν' ε'] {R : ν → ν' → Prop}
    {ms' : List (String × ν')} (h : Correspond R ms ms')
    (hR : ∀ key v v', (key, v') ∈ ms' → R v v' → ReadAlike key v v') :
    Writes ms w ↔ Writes ms' w := by
  have hknown : (∀ key ∈ ms.map (·.1), key ∈ specNames) ↔
      ∀ key ∈ ms'.map (·.1), key ∈ specNames :=
    forall_congr' fun key => imp_congr_left h.keys.mem_iff
  rw [writes_iff, writes_iff]
  refine and_congr hknown <| and_congr h.nodup_iff <| and_congr ?kind <|
    and_congr ?scope <| and_congr ?platform <| and_congr ?version <| and_congr ?video <|
    and_congr ?instances ?perInstance
  case kind => exact h.at_iff fun v v' hv hvv' => (hR _ v v' hv hvv').kind rfl _
  case scope => exact h.at_iff fun v v' hv hvv' => (hR _ v v' hv hvv').scope rfl _
  case platform => exact h.at_iff fun v v' hv hvv' => (hR _ v v' hv hvv').platform rfl _
  case version => exact h.at_iff fun v v' hv hvv' => (hR _ v v' hv hvv').version rfl _
  case video => exact h.at_iff fun v v' hv hvv' => (hR _ v v' hv hvv').video rfl _
  case instances => exact h.at_iff fun v v' hv hvv' => (hR _ v v' hv hvv').factor (.inl rfl) _
  case perInstance => exact h.at_iff fun v v' hv hvv' => (hR _ v v' hv hvv').factor (.inr rfl) _

/-- **Specs.** -/
theorem readSpec_of_maps {v : ν} (hv : Maps v ms) (report : Cause → ε) (s : Spec) :
    readSpec report v = .ok s ↔ ∃ w, Writes ms w ∧ w.spec = .ok s := by
  rw [readSpec_eq_ok_iff]
  simp only [read_specRecord_iff hv]

end Lineup.Scenario
