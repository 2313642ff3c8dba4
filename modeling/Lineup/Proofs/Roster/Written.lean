import Lineup.Proofs.Roster.Fingerprint
import Lineup.Proofs.Roster.Run
import Lineup.Proofs.Scenario.Document

/-!
Rosters as JSON values. The object of a roster has its name, its label and its browsers,
and the object of a browser has what the browser has and nothing else. So nothing of
them is lost: rosters that stand as the same value are alike.
-/

namespace Lineup

open Browser Json Text Document

/-! ## Objects -/

/-- An object that has exactly the members of a relation, each under a name of its own. -/
def Json.Value.IsObject (v : Value) (has : String → Value → Prop) : Prop :=
  ∃ ms, v = .object ms ∧ (ms.map (·.1)).Nodup ∧ ∀ name x, (name, x) ∈ ms ↔ has name x

/-- What the object of a browser has. -/
inductive Browser.Instance.Has (b : Instance) : String → Value → Prop
  | id : Has b "id" (.text b.id)
  | kind : Has b "browserType" (.text b.kind.word)
  | scope : Has b "scope" (.text b.scope.word)
  | platform {p : Platform} : b.platform = some p → Has b "platform" (.text p.word)
  | version {v : String} : b.version = some v → Has b "version" (.text v)
  | video {p : Path} : b.video = some p → Has b "video" (.text p.text)

/-- What the object of a roster has, given its list of browsers. -/
inductive Roster.Has (r : Roster) (browsers : List Value) : String → Value → Prop
  | named {name : String} : r.name = some name → Has r browsers "name" (.text name)
  | unnamed : r.name = none → Has r browsers "name" .null
  | label : Has r browsers "label" (.text r.label)
  | browsers : Has r browsers "browsers" (.list browsers)

/-- All browsers of a roster, in the order of their identifiers. -/
structure Roster.Ranked (r : Roster) (bs : List Instance) : Prop where
  ascending : bs.Pairwise fun b b' => bytes b.id < bytes b'.id
  get_iff : ∀ id b, r.get id = .ok b ↔ b ∈ bs ∧ b.id = id

/-- Two rosters have the same name and the same browsers. -/
structure Roster.Alike (r r' : Roster) : Prop where
  name : r.name = r'.name
  get_iff : ∀ id b, r.get id = .ok b ↔ r'.get id = .ok b

/-- The value is an object that stands for the roster. -/
inductive Roster.Listed (r : Roster) (v : Value) : Prop
  | object {bs : List Instance} {vs : List Value} : r.Ranked bs →
      List.Forall₂ (fun b x => Value.IsObject x b.Has) bs vs → v.IsObject (r.Has vs) → Listed r v

namespace Json.Value

theorem isObject_ordered {ms : List (String × Value)} {has : String → Value → Prop}
    (hd : (ms.map (·.1)).Nodup) (h : ∀ name x, (name, x) ∈ ms ↔ has name x) :
    (ordered ms).IsObject has := by
  have hperm := Keyed.entries_ofList_perm hd
  exact ⟨_, rfl, (hperm.map _).nodup_iff.mpr hd, fun name x => hperm.mem_iff.trans (h name x)⟩

theorem IsObject.has_iff {v : Value} {has has' : String → Value → Prop} (h : v.IsObject has)
    (h' : v.IsObject has') (name : String) (x : Value) : has name x ↔ has' name x := by
  obtain ⟨ms, rfl, -, hms⟩ := h
  obtain ⟨ms', heq, -, hms'⟩ := h'
  cases heq
  exact (hms name x).symm.trans (hms' name x)

end Json.Value

namespace Browser.Instance

theorem mem_members_iff {b : Instance} {name : String} {x : Value} :
    (name, x) ∈ b.members ↔ b.Has name x := by
  constructor
  · intro h
    simp only [members, member, List.mem_append, List.mem_cons, List.not_mem_nil, or_false,
      Prod.mk.injEq, List.mem_map, Option.mem_toList, Option.map_eq_some_iff] at h
    rcases h with ((((⟨rfl, rfl⟩ | ⟨rfl, rfl⟩ | ⟨rfl, rfl⟩) | ⟨_, ⟨p, hp, rfl⟩, rfl, rfl⟩) |
      ⟨v, hv, rfl, rfl⟩) | ⟨_, ⟨p, hp, rfl⟩, rfl, rfl⟩)
    · exact .id
    · exact .kind
    · exact .scope
    · exact .platform hp
    · exact .version hv
    · exact .video hp
  · intro h
    cases h with
    | id => simp [members]
    | kind => simp [members]
    | scope => simp [members]
    | platform hp => simp [members, member, hp]
    | version hv => simp [members, member, hv]
    | video hp => simp [members, member, hp]

/-! Under each name an object of a browser has what the browser has. -/

theorem has_id_iff {b : Instance} {s : String} : b.Has "id" (.text s) ↔ b.id = s := by
  rw [← mem_members_iff]
  simp [members, member, eq_comm]

theorem has_kind_iff {b : Instance} {k : Kind} :
    b.Has "browserType" (.text k.word) ↔ b.kind = k := by
  rw [← mem_members_iff]
  simp [members, member, eq_comm, Kind.word_injective.eq_iff]

theorem has_scope_iff {b : Instance} {c : Scope} : b.Has "scope" (.text c.word) ↔ b.scope = c := by
  rw [← mem_members_iff]
  simp [members, member, eq_comm, Scope.word_injective.eq_iff]

theorem has_platform_iff {b : Instance} {p : Platform} :
    b.Has "platform" (.text p.word) ↔ b.platform = some p := by
  rw [← mem_members_iff]
  simp [members, member, Platform.word_injective.eq_iff]

theorem has_version_iff {b : Instance} {v : String} :
    b.Has "version" (.text v) ↔ b.version = some v := by
  rw [← mem_members_iff]
  simp [members, member]

theorem has_video_iff {b : Instance} {p : Path} :
    b.Has "video" (.text p.text) ↔ b.video = some p := by
  have hmem : ("video", .text p.text) ∈ b.members ↔
      ∃ p', b.video = some p' ∧ p'.text = p.text := by simp [members, member]
  rw [← mem_members_iff, hmem]
  constructor
  · rintro ⟨p', hp', htext⟩
    rw [hp', show p' = p from congrArg Path.mk htext]
  · intro hp
    exact ⟨p, hp, rfl⟩

/-- Browsers are the same if their objects are. -/
theorem eq_of_has_iff {b b' : Instance} (h : ∀ name x, b.Has name x ↔ b'.Has name x) : b = b' := by
  have hid : b.id = b'.id := has_id_iff.mp ((h _ _).mpr .id)
  have hkind : b.kind = b'.kind := has_kind_iff.mp ((h _ _).mpr .kind)
  have hscope : b.scope = b'.scope := has_scope_iff.mp ((h _ _).mpr .scope)
  have hplatform : b.platform = b'.platform := Option.ext fun p => by
    rw [← has_platform_iff, ← has_platform_iff, h]
  have hversion : b.version = b'.version := Option.ext fun v => by
    rw [← has_version_iff, ← has_version_iff, h]
  have hvideo : b.video = b'.video := Option.ext fun p => by
    rw [← has_video_iff, ← has_video_iff, h]
  cases b
  cases b'
  simp only [mk.injEq]
  exact ⟨hid, hkind, hscope, hplatform, hversion, hvideo⟩

end Browser.Instance

namespace Roster

theorem Accounted.ranked {r : Roster} {acc : List Addition} (h : Accounted r acc) :
    r.Ranked r.toList := by
  obtain ⟨-, -, hids, hentries, hascending, -, -, -⟩ := h.reflects
  constructor
  case ascending =>
    rw [← hids, List.pairwise_map] at hascending
    exact hascending
  case get_iff =>
    intro id b
    rw [get_eq_ok_iff, hentries, List.mem_map]
    constructor
    · rintro ⟨b', hb', heq⟩
      cases heq
      exact ⟨hb', rfl⟩
    · rintro ⟨hb, rfl⟩
      exact ⟨b, hb, rfl⟩

theorem mem_members_iff {r : Roster} {vs : List Value} {name : String} {x : Value} :
    (name, x) ∈ [("name", .ofOption r.name), ("label", .text r.label), ("browsers", .list vs)] ↔
      r.Has vs name x := by
  simp only [List.mem_cons, List.not_mem_nil, or_false, Prod.mk.injEq]
  constructor
  · rintro (⟨rfl, rfl⟩ | ⟨rfl, rfl⟩ | ⟨rfl, rfl⟩)
    · cases hname : r.name with
      | none => exact .unnamed hname
      | some name => exact .named hname
    · exact .label
    · exact .browsers
  · intro h
    cases h with
    | named hname => simp [hname, Value.ofOption]
    | unnamed hname => simp [hname, Value.ofOption]
    | label => simp
    | browsers => simp

theorem listed_value {r : Roster} {acc : List Addition} (h : Accounted r acc) :
    r.Listed r.value := by
  have hbrowsers : List.Forall₂ (fun b x => Value.IsObject x b.Has) r.toList
      (r.toList.map fun b => .ordered b.members) := by
    rw [List.forall₂_map_right_iff, List.forall₂_same]
    exact fun b _ => Value.isObject_ordered b.nodup_members fun _ _ => Instance.mem_members_iff
  exact .object h.ranked hbrowsers (Value.isObject_ordered (by simp) fun _ _ => mem_members_iff)

theorem has_name_iff {r : Roster} {vs : List Value} {name : String} :
    r.Has vs "name" (.text name) ↔ r.name = some name := by
  rw [← mem_members_iff]
  cases r.name with
  | none => simp [Value.ofOption]
  | some name' => simp [Value.ofOption, eq_comm]

theorem has_browsers_iff {r : Roster} {vs vs' : List Value} :
    r.Has vs "browsers" (.list vs') ↔ vs' = vs := by
  rw [← mem_members_iff]
  simp

/-- Rosters that stand as the same value are alike. -/
theorem Listed.alike {r r' : Roster} {v : Value} (h : r.Listed v) (h' : r'.Listed v) :
    r.Alike r' := by
  obtain @⟨bs, vs, hranked, hbrowsers, hobject⟩ := h
  obtain @⟨bs', vs', hranked', hbrowsers', hobject'⟩ := h'
  have hhas := hobject.has_iff hobject'
  have hname : r.name = r'.name := Option.ext fun name => by
    rw [← has_name_iff, ← has_name_iff, hhas]
  have hvs : vs = vs' := has_browsers_iff.mp ((hhas _ _).mp .browsers)
  subst hvs
  have hbs : List.Forall₂ (· = ·) bs bs' :=
    forall₂_comp (fun hx hx' => Instance.eq_of_has_iff (hx.has_iff hx')) hbrowsers hbrowsers'.flip
  rw [List.forall₂_eq_eq_eq] at hbs
  subst hbs
  exact ⟨hname, fun id b => (hranked.get_iff id b).trans (hranked'.get_iff id b).symm⟩

/-- Lists and objects are nested at most four times. -/
theorem depth_values (rosters : List Roster) :
    (Value.list (rosters.map Roster.value)).depth ≤ 4 := by
  have hbrowser : ∀ b : Instance, (Value.ordered b.members).depth ≤ 1 := by
    refine fun b => reorders_ordered.depth_le b.nodup_members fun m hm => ?_
    exact (Instance.depth_of_mem_members hm).le
  have hroster : ∀ r : Roster, r.value.depth ≤ 3 := by
    refine fun r => reorders_ordered.depth_le (by simp) fun m hm => ?_
    simp only [List.mem_cons, List.not_mem_nil, or_false] at hm
    rcases hm with rfl | rfl | rfl
    · cases r.name <;> exact Nat.zero_le 2
    · exact Nat.zero_le 2
    · rw [Value.depth, Nat.add_le_add_iff_right, Value.depthItems_le_iff]
      exact List.forall_mem_map.mpr fun b _ => hbrowser b
  rw [Value.depth, Nat.add_le_add_iff_right, Value.depthItems_le_iff]
  exact List.forall_mem_map.mpr fun r _ => hroster r

end Roster
end Lineup
