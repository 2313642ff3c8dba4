import Lineup.Proofs.Document.Map

/-!
Documents that every format can write, in outline: trees of maps, lists, texts and
integers. A format tells which of its nodes are of which kind, and a node shows a tree
if both are built alike, whatever the order in which the members of its maps stand. A
tree can be read by a schema itself.
-/

namespace Lineup.Document

open Steps

inductive Outline where
  | text (s : String)
  | integer (n : Int64)
  | list (items : List Outline)
  | map (members : List (String × Outline))

/-- The nodes of a format that stand for a text, an integer, a list or a map. -/
structure Kinds (ν : Type) where
  text : ν → String → Prop
  integer : ν → Int64 → Prop
  list : ν → List ν → Prop
  map : ν → List (String × ν) → Prop

variable {ν ε : Type}

namespace Kinds

inductive Shows (k : Kinds ν) : ν → Outline → Prop
  | text {v : ν} {s : String} (h : k.text v s) : Shows k v (.text s)
  | integer {v : ν} {n : Int64} (h : k.integer v n) : Shows k v (.integer n)
  | list {v : ν} {vs : List ν} {items : List Outline} (h : k.list v vs)
    (hitems : List.Forall₂ (Shows k) vs items) : Shows k v (.list items)
  | map {v : ν} {ms : List (String × ν)} {members members' : List (String × Outline)}
    (h : k.map v ms)
    (hkeys : ms.map (·.1) = members.map (·.1))
    (hvalues : List.Forall₂ (Shows k) (ms.map (·.2)) (members.map (·.2)))
    (hperm : members.Perm members') : Shows k v (.map members')

/-- What a schema is told about the nodes of each kind. -/
structure Answers [Reading ν ε] (k : Kinds ν) : Prop where
  text {v : ν} {s : String} (h : k.text v s) (expected : String) : Reading.text expected v = .ok s
  choice {v : ν} {s : String} (h : k.text v s) {α : Type} (words : List (String × α)) (a : α) :
    Reading.choice words v = .ok a ↔ words.lookup s = some a
  textThere {v : ν} {s : String} (h : k.text v s) : Reading.optional v = .ok (some v)
  integer {v : ν} {n : Int64} (h : k.integer v n) : Reading.integer v = .ok n
  integerThere {v : ν} {n : Int64} (h : k.integer v n) : Reading.optional v = .ok (some v)
  list {v : ν} {vs : List ν} (h : k.list v vs) : Elements v vs
  map {v : ν} {ms : List (String × ν)} (h : k.map v ms) : Maps v ms

namespace Shows

variable {k : Kinds ν} {v : ν}

theorem isText {s : String} (h : k.Shows v (.text s)) : k.text v s := by
  cases h with
  | text h => exact h

theorem isInteger {n : Int64} (h : k.Shows v (.integer n)) : k.integer v n := by
  cases h with
  | integer h => exact h

theorem isList {items : List Outline} (h : k.Shows v (.list items)) :
    ∃ vs, k.list v vs ∧ List.Forall₂ k.Shows vs items := by
  cases h with
  | list h hitems => exact ⟨_, h, hitems⟩

theorem isMap {members : List (String × Outline)} (h : k.Shows v (.map members)) :
    ∃ ms, k.map v ms ∧ Correspond k.Shows ms members := by
  cases h with
  | map h hkeys hvalues hperm => exact ⟨_, h, _, Pairing.of_keys_of_values hkeys hvalues, hperm⟩

theorem of_correspond {ms : List (String × ν)} {members : List (String × Outline)} (h : k.map v ms)
    (hms : Correspond k.Shows ms members) : k.Shows v (.map members) := by
  obtain ⟨l, hl, hperm⟩ := hms
  refine .map h (Pairing.map_eq (fun _ _ hm => hm.1) hl) ?_ hperm
  rw [List.forall₂_map_left_iff, List.forall₂_map_right_iff]
  exact hl.imp fun _ _ hm => hm.2

end Shows
end Kinds

/-! ## Trees as documents -/

namespace Outline

def found : Outline → Found
  | text s => .text s
  | integer n => .integer n.toInt
  | list _ => .list
  | map _ => .map

def refuse (expected : String) (t : Outline) : Cause := .wrongType t.found expected

def answerText (expected : String) : Outline → Except Cause String
  | text s => .ok s
  | t => .error (t.refuse expected)

def answerInteger : Outline → Except Cause Int64
  | integer n => .ok n
  | t => .error (t.refuse "i64")

def answerChoice {α : Type} (words : List (String × α)) : Outline → Except Cause α
  | text s =>
    match words.lookup s with
    | some a => .ok a
    | none => .error (.unknownWord s (words.map (·.1)))
  | t => .error (t.refuse "a word")

def answerItems (expected : String) : Outline → Except Cause (Items Outline Cause)
  | list items => .ok ⟨items.map (⟨·, .ok ()⟩), .ok id⟩
  | t => .error (t.refuse expected)

def entry (m : String × Outline) : Entry Outline Cause where
  name _ := .ok m.1
  value := m.2
  atName := id
  atValue := id

def answerEntries (expected : String) : Outline → Except Cause (Entries Outline Cause)
  | map members => .ok ⟨members.map entry, .ok id⟩
  | t => .error (t.refuse expected)

end Outline

instance : Reading Outline Cause where
  text := Outline.answerText
  integer := Outline.answerInteger
  choice := Outline.answerChoice
  optional t := .ok (some t)
  items := Outline.answerItems
  entries := Outline.answerEntries
  members expected t := .named <$> t.answerEntries expected

namespace Outline

def kinds : Kinds Outline where
  text t s := t = .text s
  integer t n := t = .integer n
  list t items := t = .list items
  map t members := t = .map members

theorem answers_kinds : kinds.Answers where
  text h expected := by
    subst h
    rfl
  choice h α words a := by
    subst h
    change answerChoice words _ = _ ↔ _
    rw [answerChoice]
    cases words.lookup _ <;> simp
  textThere _ := rfl
  integer h := by
    subst h
    rfl
  integerThere _ := rfl
  list h := by
    subst h
    refine ⟨_, rfl, ⟨id, rfl⟩, ?_⟩
    simp [Function.comp_def]
  map h := by
    subst h
    refine .of_hands (fun _ => rfl) (fun _ => rfl) ⟨?_, id, rfl⟩
    rw [List.forall₂_map_left_iff, List.forall₂_same]
    exact fun m _ => ⟨fun _ => rfl, rfl⟩

end Outline
end Lineup.Document
