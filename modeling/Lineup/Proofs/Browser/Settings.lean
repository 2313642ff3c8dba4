import Lineup.Browser.Spec
import Mathlib.Data.List.Induction
import Mathlib.Tactic.Common

/-!
Settings in any order and with any repetitions. A spec has for each of its parts what
the last setting of this part brought, or the default if there was none; only an empty
version and zero browsers per instance are not taken as they are. So settings of
different parts commute, and every spec is one that settings can make.
-/

namespace Lineup.Browser

/-! ## The last setting -/

/-- The last of the settings of one sort brings this value, or none of them is of this sort. -/
def Last {α : Type} (mk : α → Setting) (l : List Setting) : Option α → Prop
  | some a => ∃ before after, l = before ++ mk a :: after ∧ ∀ a', mk a' ∉ after
  | none => ∀ a, mk a ∉ l

section

variable {α β : Type} {mk : α → Setting} {l : List Setting}

theorem last_append_self (mk : α → Setting) (l : List Setting) (a : α) :
    Last mk (l ++ [mk a]) (some a) :=
  ⟨l, [], rfl, fun _ => List.not_mem_nil⟩

theorem Last.append {o : Option α} (h : Last mk l o) {c : Setting} (hc : ∀ a, mk a ≠ c) :
    Last mk (l ++ [c]) o := by
  have hnew : ∀ {l : List Setting}, (∀ a, mk a ∉ l) → ∀ a, mk a ∉ l ++ [c] := by
    intro l hl a ha
    rcases List.mem_append.mp ha with ha | ha
    · exact hl a ha
    · exact hc a (List.mem_singleton.mp ha)
  cases o with
  | none => exact hnew h
  | some a =>
    obtain ⟨before, after, rfl, hafter⟩ := h
    exact ⟨before, after ++ [c], by simp, hnew hafter⟩

/-- Settings of one sort set a part of a draft, and those of the other sorts leave it alone. -/
structure Sets (mk : α → Setting) (get : Draft → β) (value : α → β) : Prop where
  own : ∀ (d : Draft) a, get (d.set (mk a)) = value a
  others : ∀ (d : Draft) c, (∀ a, mk a ≠ c) → get (d.set c) = get d

/-- A part of a draft is what the last setting of its sort brought, or what it was before. -/
theorem Sets.exists_last {get : Draft → β} {value : α → β} (h : Sets mk get value)
    (l : List Setting) (d : Draft) :
    ∃ o, Last mk l o ∧ get (l.foldl Draft.set d) = o.elim (get d) value := by
  induction l using List.reverseRecOn with
  | nil => exact ⟨none, fun _ => List.not_mem_nil, rfl⟩
  | append_singleton l c ih =>
    rw [List.foldl_append, List.foldl_cons, List.foldl_nil]
    -- The setting at the end decides if it is of this sort, and else what it was before it.
    by_cases hc : ∃ a, mk a = c
    · obtain ⟨a, rfl⟩ := hc
      exact ⟨some a, last_append_self mk l a, h.own _ a⟩
    · have hne : ∀ a, mk a ≠ c := not_exists.mp hc
      obtain ⟨o, ho, heq⟩ := ih
      exact ⟨o, ho.append hne, (h.others _ c hne).trans heq⟩

/-- A part with a default. -/
theorem Sets.exists_getD {get : Draft → α} (h : Sets mk get id) (l : List Setting) :
    ∃ o, Last mk l o ∧ get (l.foldl Draft.set {}) = o.getD (get {}) := by
  obtain ⟨o, ho, heq⟩ := h.exists_last l {}
  cases o <;> exact ⟨_, ho, heq⟩

/-- A part that may be missing. -/
theorem Sets.last {get : Draft → Option α} (h : Sets mk get some) (l : List Setting)
    (hnone : get {} = none) : Last mk l (get (l.foldl Draft.set {})) := by
  obtain ⟨o, ho, heq⟩ := h.exists_last l {}
  rw [heq, hnone]
  cases o <;> exact ho

end

/-! ## What settings make -/

/-- Each part of a spec is what the last setting of this part brought, or the default. An empty
version is none, and there is at least one browser per instance. -/
structure Spec.Settles (l : List Setting) (s : Spec) : Prop where
  kind : ∃ o, Last .kind l o ∧ s.kind = o.getD .chrome
  scope : ∃ o, Last .scope l o ∧ s.scope = o.getD .beside
  platform : Last .platform l s.platform
  version : ∃ o, Last .version l o ∧ s.version = o.filter (· ≠ "")
  video : Last .video l s.video
  instances : ∃ o, Last .instances l o ∧ s.instances = o.getD 0
  perInstance : ∃ o, Last .perInstance l o ∧ s.perInstance = max (o.getD 1) 1

/-- A setting changes its own part only. -/
theorem set_keeps (d : Draft) (c : Setting) :
    ((∀ k, .kind k ≠ c) → (d.set c).kind = d.kind) ∧
    ((∀ s, .scope s ≠ c) → (d.set c).scope = d.scope) ∧
    ((∀ p, .platform p ≠ c) → (d.set c).platform = d.platform) ∧
    ((∀ v, .version v ≠ c) → (d.set c).version = d.version) ∧
    ((∀ p, .video p ≠ c) → (d.set c).video = d.video) ∧
    ((∀ n, .instances n ≠ c) → (d.set c).instances = d.instances) ∧
    ((∀ n, .perInstance n ≠ c) → (d.set c).perInstance = d.perInstance) := by
  cases c <;> simp [Draft.set]

/-- The number of browsers per instance is raised to one. -/
theorem perInstance_spec (d : Draft) : d.spec.perInstance = max d.perInstance 1 := by
  have hspec : d.spec.perInstance = if d.perInstance = 0 then 1 else d.perInstance := rfl
  have hmax : max d.perInstance 1 = if d.perInstance ≤ 1 then 1 else d.perInstance := rfl
  rw [hspec, hmax]
  by_cases hzero : d.perInstance = 0
  · rw [if_pos hzero, hzero]
    rfl
  · rw [if_neg hzero]
    split
    · rename_i hle
      have hpos : 0 < d.perInstance.toNat :=
        UInt32.lt_iff_toNat_lt.mp (UInt32.pos_iff_ne_zero.mpr hzero)
      have hle' : d.perInstance.toNat ≤ 1 := UInt32.le_iff_toNat_le.mp hle
      have hone : d.perInstance.toNat = 1 := by omega
      exact UInt32.toNat_inj.mp hone
    · rfl

/-- **Settings.** -/
theorem settles_ofSettings (l : List Setting) : (Spec.ofSettings l).Settles l := by
  have hkind : Sets .kind Draft.kind id := ⟨fun _ _ => rfl, fun d c => (set_keeps d c).1⟩
  have hscope : Sets .scope Draft.scope id := ⟨fun _ _ => rfl, fun d c => (set_keeps d c).2.1⟩
  have hplatform : Sets .platform Draft.platform some :=
    ⟨fun _ _ => rfl, fun d c => (set_keeps d c).2.2.1⟩
  have hversion : Sets .version Draft.version some :=
    ⟨fun _ _ => rfl, fun d c => (set_keeps d c).2.2.2.1⟩
  have hvideo : Sets .video Draft.video some :=
    ⟨fun _ _ => rfl, fun d c => (set_keeps d c).2.2.2.2.1⟩
  have hinstances : Sets .instances Draft.instances id :=
    ⟨fun _ _ => rfl, fun d c => (set_keeps d c).2.2.2.2.2.1⟩
  have hper : Sets .perInstance Draft.perInstance id :=
    ⟨fun _ _ => rfl, fun d c => (set_keeps d c).2.2.2.2.2.2⟩
  obtain ⟨n, hn, heq⟩ := hper.exists_getD l
  exact {
    kind := hkind.exists_getD l
    scope := hscope.exists_getD l
    platform := hplatform.last l rfl
    version := ⟨_, hversion.last l rfl, rfl⟩
    video := hvideo.last l rfl
    instances := hinstances.exists_getD l
    perInstance := ⟨n, hn, (perInstance_spec _).trans (congrArg (max · 1) heq)⟩ }

/-- An empty version takes back the one before it, and zero counts as one. -/
example :
    let s := Spec.ofSettings [.version "24", .perInstance 3, .version "", .perInstance 0]
    s.version = none ∧ s.perInstance = 1 := by
  decide +kernel

/-! ## Settings of different parts -/

/-- What a setting is about. -/
inductive Part where
  | kind | scope | platform | version | video | instances | perInstance
deriving DecidableEq

def Setting.part : Setting → Part
  | .kind _ => .kind
  | .scope _ => .scope
  | .platform _ => .platform
  | .version _ => .version
  | .video _ => .video
  | .instances _ => .instances
  | .perInstance _ => .perInstance

theorem Draft.set_comm (d : Draft) {a b : Setting} (h : a.part ≠ b.part) :
    (d.set a).set b = (d.set b).set a := by
  cases a <;> cases b <;> first | rfl | exact absurd rfl h

/-- Settings next to each other may change places if they are about different parts. -/
theorem ofSettings_swap (before after : List Setting) {a b : Setting} (h : a.part ≠ b.part) :
    Spec.ofSettings (before ++ a :: b :: after) = .ofSettings (before ++ b :: a :: after) := by
  simp only [Spec.ofSettings, List.foldl_append, List.foldl_cons, Draft.set_comm _ h]

/-! ## Normal specs -/

/-- There is at least one browser per instance, and the version is not empty. -/
structure Spec.Normal (s : Spec) : Prop where
  perInstance : 1 ≤ s.perInstance.toNat
  version : s.version ≠ some ""

theorem normal_of_settles {l : List Setting} {s : Spec} (h : s.Settles l) : s.Normal where
  perInstance := by
    obtain ⟨n, -, hn⟩ := h.perInstance
    have hmax : max (n.getD 1) 1 = if n.getD 1 ≤ 1 then 1 else n.getD 1 := rfl
    have hone : (1 : UInt32).toNat = 1 := rfl
    rw [hn, hmax]
    split
    · exact Nat.le_of_eq hone.symm
    · rename_i hlt
      rw [UInt32.le_iff_toNat_le] at hlt
      omega
  version := by
    obtain ⟨v, -, hv⟩ := h.version
    rw [hv]
    simp [Option.filter_eq_some_iff]

/-- The settings that make a draft. -/
def Draft.settings (d : Draft) : List Setting :=
  [.kind d.kind, .scope d.scope] ++ d.platform.toList.map .platform
  ++ d.version.toList.map .version ++ d.video.toList.map .video
  ++ [.instances d.instances, .perInstance d.perInstance]

theorem Draft.ofSettings_settings (d : Draft) : Spec.ofSettings d.settings = d.spec := by
  have hdraft : d.settings.foldl Draft.set {} = d := by
    obtain ⟨kind, scope, platform, version, video, instances, perInstance⟩ := d
    cases platform <;> cases version <;> cases video <;> rfl
  rw [Spec.ofSettings, hdraft]

end Lineup.Browser
