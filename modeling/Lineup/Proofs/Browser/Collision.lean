import Lineup.Proofs.Browser.Identifiers

/-!
When identifiers of two specs can be equal. What is written behind a base shows
which of three shapes the replication has, so under one base only specs of one
shape collide. Under different bases, one base goes on where the other one ends,
with a part of a numbering.
-/

namespace Lineup.Browser

/-! ## Shapes -/

/-- How a spec is replicated: not at all, into instances of one browser each, or into instances
of several browsers. -/
inductive Shape where
  | plain | counted | paired
deriving DecidableEq, Repr

namespace Shape

/-- What is written behind the base of the first browser. -/
def first : Shape → String
  | plain => ""
  | counted => "0"
  | paired => "0-0"

/-- The shape that a text behind a base shows. -/
def ofSuffix (x : String) : Shape :=
  if x = "" then plain else if '-' ∈ x.toList then paired else counted

end Shape

namespace Spec

def shape (s : Spec) : Shape :=
  if s.instances = 0 then .plain else if s.perInstance = 1 then .counted else .paired

/-- What can stand behind a base: nothing, one number, or two numbers around a dash. -/
theorem mem_suffixes_cases {s : Spec} {x : String} (h : x ∈ s.suffixes) :
    (s.shape = .plain ∧ x = "") ∨
    (s.shape = .counted ∧ ∃ i : Nat, x = i.repr) ∨
    (s.shape = .paired ∧ ∃ i j : Nat, x = i.repr ++ "-" ++ j.repr) := by
  rw [suffixes] at h
  rw [shape]
  split at h
  · rename_i hn
    rw [if_pos hn]
    exact .inl ⟨rfl, List.mem_singleton.mp h⟩
  split at h
  · rename_i hn hm
    obtain ⟨i, -, rfl⟩ := List.mem_map.mp h
    rw [if_neg hn, if_pos hm]
    exact .inr (.inl ⟨rfl, i, rfl⟩)
  · rename_i hn hm
    obtain ⟨i, -, hi⟩ := List.mem_flatMap.mp h
    obtain ⟨j, -, rfl⟩ := List.mem_map.mp hi
    rw [if_neg hn, if_neg hm]
    exact .inr (.inr ⟨rfl, i, j, rfl⟩)

theorem first_mem_suffixes (s : Spec) : s.shape.first ∈ s.suffixes := by
  have hm := s.one_le_perInstance
  rw [suffixes, shape]
  split
  · exact List.mem_singleton.mpr rfl
  rename_i hn
  rw [instances_eq_zero_iff] at hn
  have hi : 0 ∈ List.range s.instances.toNat := List.mem_range.mpr (by omega)
  have hj : 0 ∈ List.range s.perInstance.toNat := List.mem_range.mpr (by omega)
  split
  · exact List.mem_map.mpr ⟨0, hi, rfl⟩
  · exact List.mem_flatMap.mpr ⟨0, hi, List.mem_map.mpr ⟨0, hj, rfl⟩⟩

end Spec

theorem repr_ne_empty (n : Nat) : n.repr ≠ "" := by
  intro h
  have hnil := congrArg String.toList h
  rw [Nat.toList_repr] at hnil
  exact Nat.toDigits_ne_nil hnil

theorem isDigit_of_mem_repr {n : Nat} {c : Char} (h : c ∈ n.repr.toList) : c.isDigit = true := by
  rw [Nat.toList_repr] at h
  exact Nat.isDigit_of_mem_toDigits (by decide) (by decide) h

theorem toList_repr_dash_repr (i j : Nat) :
    (i.repr ++ "-" ++ j.repr).toList = i.repr.toList ++ '-' :: j.repr.toList := by
  simp [String.toList_append]

namespace Spec

theorem ofSuffix_eq_shape {s : Spec} {x : String} (h : x ∈ s.suffixes) :
    Shape.ofSuffix x = s.shape := by
  rcases mem_suffixes_cases h with ⟨hs, rfl⟩ | ⟨hs, i, rfl⟩ | ⟨hs, i, j, rfl⟩
  · rw [hs]
    rfl
  · rw [hs, Shape.ofSuffix, if_neg (repr_ne_empty i), if_neg (dash_not_mem_repr i)]
  · have hdash : '-' ∈ (i.repr ++ "-" ++ j.repr).toList := by
      rw [toList_repr_dash_repr]
      simp
    have hne : i.repr ++ "-" ++ j.repr ≠ "" := by
      intro he
      rw [he] at hdash
      cases hdash
    rw [hs, Shape.ofSuffix, if_neg hne, if_pos hdash]

/-- **One base.** -/
theorem share_iff_same_shape (base : String) (s t : Spec) :
    (∃ id ∈ s.ids base, id ∈ t.ids base) ↔ s.shape = t.shape := by
  constructor
  · rintro ⟨id, hs, ht⟩
    obtain ⟨x, hx, rfl⟩ := List.mem_map.mp hs
    obtain ⟨y, hy, he⟩ := List.mem_map.mp ht
    have hxy : y = x := (String.append_right_inj base).mp he
    rw [← ofSuffix_eq_shape hx, ← ofSuffix_eq_shape hy, hxy]
  · intro hshape
    refine ⟨base ++ s.shape.first, List.mem_map.mpr ⟨_, s.first_mem_suffixes, rfl⟩, ?_⟩
    exact List.mem_map.mpr ⟨_, t.first_mem_suffixes, by rw [hshape]⟩

end Spec

/-! ## Different bases -/

/-- Where one text is split in two ways, one of the splits is further back. -/
theorem split_of_append_eq {a b x y : String} (h : a ++ x = b ++ y) :
    (∃ rest, b = a ++ rest ∧ x = rest ++ y) ∨ (∃ rest, a = b ++ rest ∧ y = rest ++ x) := by
  have hlist : a.toList ++ x.toList = b.toList ++ y.toList := by
    rw [← String.toList_append, ← String.toList_append, h]
  rcases List.append_eq_append_iff.mp hlist with ⟨rest, hb, hx⟩ | ⟨rest, ha, hy⟩
  · refine .inl ⟨String.ofList rest, String.toList_inj.mp ?_, String.toList_inj.mp ?_⟩
    · simp [hb]
    · simp [hx]
  · refine .inr ⟨String.ofList rest, String.toList_inj.mp ?_, String.toList_inj.mp ?_⟩
    · simp [ha]
    · simp [hy]

/-- A text that begins with a digit and consists of digits and at most one dash. -/
structure Numbering (x : String) : Prop where
  begins : ∃ c ∈ x.toList.head?, c.isDigit = true
  chars : ∀ c ∈ x.toList, c.isDigit = true ∨ c = '-'
  dashes : x.toList.count '-' ≤ 1

/-- What is written behind a base is a numbering, as far as it is read. -/
theorem Numbering.of_append {x y : String} (h : Numbering (x ++ y)) (hne : x ≠ "") :
    Numbering x := by
  obtain ⟨hbegins, hchars, hdashes⟩ := h
  rw [String.toList_append] at hbegins hchars hdashes
  have hnil : x.toList ≠ [] := fun h => hne (String.toList_inj.mp h)
  constructor
  case begins =>
    rwa [List.head?_append_of_ne_nil _ hnil] at hbegins
  case chars => exact fun c hc => hchars c (List.mem_append_left _ hc)
  case dashes =>
    rw [List.count_append] at hdashes
    omega

theorem numbering_repr (i : Nat) : Numbering i.repr := by
  have hnil : i.repr.toList ≠ [] := fun h => repr_ne_empty i (String.toList_inj.mp h)
  constructor
  case begins =>
    exact ⟨_, List.head?_eq_some_head hnil, isDigit_of_mem_repr (List.head_mem hnil)⟩
  case chars => exact fun c hc => .inl (isDigit_of_mem_repr hc)
  case dashes =>
    rw [List.count_eq_zero.mpr (dash_not_mem_repr i)]
    omega

theorem numbering_pair (i j : Nat) : Numbering (i.repr ++ "-" ++ j.repr) := by
  obtain ⟨⟨c, hc, hdigit⟩, -, -⟩ := numbering_repr i
  constructor
  case begins =>
    rw [toList_repr_dash_repr]
    exact ⟨c, by rw [List.head?_append, Option.mem_def.mp hc]; rfl, hdigit⟩
  case chars =>
    intro c hc
    rw [toList_repr_dash_repr, List.mem_append, List.mem_cons] at hc
    rcases hc with hc | rfl | hc
    · exact .inl (isDigit_of_mem_repr hc)
    · exact .inr rfl
    · exact .inl (isDigit_of_mem_repr hc)
  case dashes =>
    rw [toList_repr_dash_repr, List.count_append, List.count_cons,
      List.count_eq_zero.mpr (dash_not_mem_repr i), List.count_eq_zero.mpr (dash_not_mem_repr j)]
    simp

namespace Spec

theorem numbering_of_mem_suffixes {s : Spec} {x : String} (h : x ∈ s.suffixes) (hne : x ≠ "") :
    s.instances ≠ 0 ∧ Numbering x := by
  have hplain : s.shape ≠ .plain → s.instances ≠ 0 := by
    intro hs h0
    exact hs (by rw [shape, if_pos h0])
  rcases mem_suffixes_cases h with ⟨-, rfl⟩ | ⟨hs, i, rfl⟩ | ⟨hs, i, j, rfl⟩
  · exact absurd rfl hne
  · exact ⟨hplain (by rw [hs]; decide), numbering_repr i⟩
  · exact ⟨hplain (by rw [hs]; decide), numbering_pair i j⟩

/-- One base is another one with a numbering behind it, and the spec under the other one is
replicated. -/
def Continues (long short : String) (s : Spec) : Prop :=
  s.instances ≠ 0 ∧ ∃ rest, Numbering rest ∧ long = short ++ rest

theorem continues_of_split {a rest x y : String} {s : Spec} (hrest : rest ≠ "")
    (hx : x ∈ s.suffixes) (hxr : x = rest ++ y) : Continues (a ++ rest) a s := by
  have hxne : x ≠ "" := by
    intro h0
    rw [h0] at hxr
    exact hrest (String.append_eq_empty_iff.mp hxr.symm).1
  obtain ⟨hinst, hnum⟩ := numbering_of_mem_suffixes hx hxne
  rw [hxr] at hnum
  exact ⟨hinst, rest, hnum.of_append hrest, rfl⟩

/-- **Two bases.** -/
theorem continues_of_share {a b id : String} {s t : Spec} (hne : a ≠ b) (hs : id ∈ s.ids a)
    (ht : id ∈ t.ids b) : Continues b a s ∨ Continues a b t := by
  obtain ⟨x, hx, rfl⟩ := List.mem_map.mp hs
  obtain ⟨y, hy, he⟩ := List.mem_map.mp ht
  rcases split_of_append_eq he with ⟨rest, rfl, hyr⟩ | ⟨rest, rfl, hxr⟩
  · exact .inr (continues_of_split (fun h0 => hne (by simp [h0])) hy hyr)
  · exact .inl (continues_of_split (fun h0 => hne (by simp [h0])) hx hxr)

example :
    "cam1-0" ∈ (ofSettings [.instances 2, .perInstance 2]).ids "cam" ∧
    "cam1-0" ∈ (ofSettings [.instances 2]).ids "cam1-" := by
  decide +kernel

end Spec
end Lineup.Browser
