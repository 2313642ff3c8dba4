import Lineup.Keyed
import Mathlib.Data.List.Perm.Basic
import Mathlib.Data.String.Basic

/-!
What a keyed collection holds after insertions. An insertion changes one lookup
and no other; insertions under new keys only add their entries. The order of the
entries carries no information, so collections whose entries are permutations of
each other are equal.
-/

namespace Lineup.Keyed

variable {α β : Type}

/-! ## Lookups -/

theorem lookup_place (key k : String) (a : α) (l : List (String × α)) :
    (place key a l).lookup k = if k = key then some a else l.lookup k := by
  induction l with
  | nil =>
    by_cases h : k = key
    · simp [place, h]
    · have hb : (k == key) = false := by simp [h]
      simp [place, List.lookup_cons, h, hb]
  | cons e rest ih =>
    obtain ⟨k', a'⟩ := e
    rw [place]
    split
    · by_cases h : k = key
      · simp [h]
      · have hb : (k == key) = false := by simp [h]
        simp only [List.lookup_cons, hb, h, ↓reduceIte]
    split
    · rename_i hlt
      rw [List.lookup_cons, List.lookup_cons, ih]
      by_cases h : k = k'
      · have hne : k' ≠ key := fun e => String.lt_irrefl key (e ▸ hlt)
        simp [h, hne]
      · have hb : (k == k') = false := by simp [h]
        simp only [hb]
    · rename_i h₁ h₂
      have hkey : key = k' := String.le_antisymm (String.not_lt.mp h₂) (String.not_lt.mp h₁)
      subst hkey
      by_cases h : k = key
      · simp [h]
      · have hb : (k == key) = false := by simp [h]
        simp only [List.lookup_cons, hb, h, ↓reduceIte]

theorem find?_insert (m : Keyed α) (key k : String) (a : α) :
    (m.insert key a).find? k = if k = key then some a else m.find? k :=
  lookup_place key k a m.entries

theorem nodup_keys (m : Keyed α) : m.keys.Nodup := by
  rw [keys, List.nodup_iff_pairwise_ne, List.pairwise_map]
  exact m.increasing.imp fun h => ne_of_lt h

theorem mem_entries_iff (m : Keyed α) (k : String) (a : α) :
    (k, a) ∈ m.entries ↔ m.find? k = some a := by
  constructor
  · intro hm
    obtain ⟨before, after, h⟩ := List.append_of_mem hm
    refine List.lookup_eq_some_iff.mpr ⟨before, after, h, fun e he => ?_⟩
    have hd := m.increasing
    rw [h, List.pairwise_append] at hd
    have hlt := hd.2.2 e he (k, a) List.mem_cons_self
    simpa using (ne_of_lt hlt).symm
  · intro hf
    obtain ⟨before, after, h, -⟩ := List.lookup_eq_some_iff.mp hf
    rw [h]
    exact List.mem_append_right _ List.mem_cons_self

theorem mem_keys_iff (m : Keyed α) (k : String) : k ∈ m.keys ↔ m.contains k = true := by
  rw [keys, contains, Option.isSome_iff_exists]
  constructor
  · intro hk
    obtain ⟨e, he, rfl⟩ := List.mem_map.mp hk
    exact ⟨e.2, (mem_entries_iff m e.1 e.2).mp he⟩
  · rintro ⟨a, ha⟩
    exact List.mem_map.mpr ⟨(k, a), (mem_entries_iff m k a).mpr ha, rfl⟩

theorem find?_eq_none_iff (m : Keyed α) (k : String) : m.find? k = none ↔ k ∉ m.keys := by
  rw [mem_keys_iff, contains, Option.not_isSome_iff_eq_none]

theorem mem_keys_insert (m : Keyed α) (key k : String) (a : α) :
    k ∈ (m.insert key a).keys ↔ k = key ∨ k ∈ m.keys := by
  rw [mem_keys_iff, mem_keys_iff, contains, contains, find?_insert]
  by_cases h : k = key <;> simp [h]

theorem mem_keys_insertMany (l : List (String × α)) (m : Keyed α) (k : String) :
    k ∈ (m.insertMany l).keys ↔ k ∈ m.keys ∨ k ∈ l.map (·.1) := by
  induction l generalizing m with
  | nil => simp [insertMany]
  | cons e rest ih =>
    have hstep : m.insertMany (e :: rest) = (m.insert e.1 e.2).insertMany rest := rfl
    rw [hstep, ih, mem_keys_insert, List.map_cons, List.mem_cons]
    tauto

/-- Insertions one after the other into a part of something are one insertion of them all. -/
theorem foldl_insert {σ δ : Type} (wrap : Keyed α → σ) (entry : δ → String × α)
    {change : σ → δ → σ}
    (h : ∀ m d, change (wrap m) d = wrap (m.insert (entry d).1 (entry d).2)) (l : List δ)
    (m : Keyed α) : l.foldl change (wrap m) = wrap (m.insertMany (l.map entry)) := by
  rw [insertMany, List.foldl_map]
  exact List.foldl_hom wrap h

/-! ## Collections as their entries -/

/-- Entries in increasing order of their keys are determined by what they are. -/
theorem eq_of_perm {m m' : Keyed α} (h : m.entries.Perm m'.entries) : m = m' := by
  have he : m.entries = m'.entries :=
    h.eq_of_pairwise (fun a b _ _ hab hba => absurd hab (lt_asymm hba)) m.increasing
      m'.increasing
  cases m
  cases m'
  simp only [mk.injEq]
  exact he

/-- Collections with the same lookups are the same collection. -/
theorem eq_of_find?_eq {m m' : Keyed α} (h : ∀ k, m.find? k = m'.find? k) : m = m' := by
  have hentries : ∀ m : Keyed α, m.entries.Nodup := by
    intro m
    refine List.nodup_iff_pairwise_ne.mpr (m.increasing.imp fun hlt he => ?_)
    rw [he] at hlt
    exact String.lt_irrefl _ hlt
  refine eq_of_perm ((List.perm_ext_iff_of_nodup (hentries m) (hentries m')).mpr ?_)
  rintro ⟨k, a⟩
  rw [mem_entries_iff, mem_entries_iff, h]

theorem keys_eq_of_perm {m : Keyed α} {m' : Keyed β} (h : m.keys.Perm m'.keys) :
    m.keys = m'.keys := by
  have hm : m.keys.Pairwise (· < ·) := List.pairwise_map.mpr m.increasing
  have hm' : m'.keys.Pairwise (· < ·) := List.pairwise_map.mpr m'.increasing
  exact h.eq_of_pairwise (fun a b _ _ hab hba => absurd hab (lt_asymm hba)) hm hm'

/-- Without values there is nothing but the keys. -/
theorem eq_of_keys_eq {m m' : Keyed Unit} (h : m.keys = m'.keys) : m = m' := by
  have hunit : ∀ l : List (String × Unit), (l.map (·.1)).map (·, ()) = l := by
    intro l
    rw [List.map_map]
    exact List.map_id l
  refine eq_of_perm (List.Perm.of_eq ?_)
  rw [← hunit m.entries, ← hunit m'.entries]
  exact congrArg _ h

/-- The entries in front of one of them are those with smaller keys. -/
theorem mem_before_iff {m : Keyed α} {before after : List (String × α)} {d e : String × α}
    (h : m.entries = before ++ d :: after) : e ∈ before ↔ e ∈ m.entries ∧ e.1 < d.1 := by
  have hincreasing := m.increasing
  rw [h, List.pairwise_append, List.pairwise_cons] at hincreasing
  obtain ⟨-, ⟨hafter, -⟩, hbefore⟩ := hincreasing
  rw [h]
  constructor
  · intro he
    exact ⟨List.mem_append_left _ he, hbefore e he d List.mem_cons_self⟩
  · rintro ⟨he, hlt⟩
    rcases List.mem_append.mp he with he | he
    · exact he
    rcases List.mem_cons.mp he with rfl | he
    · exact absurd hlt (String.lt_irrefl _)
    · exact absurd hlt (String.lt_asymm (hafter e he))

/-! ## Insertions under new keys -/

theorem place_perm (key : String) (a : α) (l : List (String × α))
    (h : key ∉ l.map (·.1)) : (place key a l).Perm ((key, a) :: l) := by
  induction l with
  | nil => exact List.Perm.refl _
  | cons e rest ih =>
    have hne : key ≠ e.1 := fun he => h (by simp [he])
    have hrest : key ∉ rest.map (·.1) := fun hm => h (List.mem_cons_of_mem _ hm)
    rw [place]
    split
    · exact List.Perm.refl _
    split
    · exact ((ih hrest).cons e).trans (List.Perm.swap _ _ _)
    · rename_i h₁ h₂
      exact absurd (String.le_antisymm (String.not_lt.mp h₂) (String.not_lt.mp h₁)) hne

/-- Entries with new and distinct keys are added to what is there. -/
theorem entries_insertMany_perm (l : List (String × α)) (m : Keyed α)
    (hnew : ∀ k ∈ l.map (·.1), k ∉ m.keys) (hd : (l.map (·.1)).Nodup) :
    (m.insertMany l).entries.Perm (m.entries ++ l) := by
  induction l generalizing m with
  | nil => simp [insertMany]
  | cons e rest ih =>
    rw [List.map_cons, List.nodup_cons] at hd
    have hplace : (m.insert e.1 e.2).entries.Perm (e :: m.entries) :=
      place_perm e.1 e.2 m.entries (hnew e.1 (by simp))
    have hrest : ∀ k ∈ rest.map (·.1), k ∉ (m.insert e.1 e.2).keys := by
      intro k hk hm
      have hmem := ((hplace.map (·.1)).mem_iff).mp hm
      rcases List.mem_cons.mp hmem with rfl | hmem
      · exact hd.1 hk
      · exact hnew k (by simp at hk ⊢; exact .inr hk) hmem
    have hfirst := hplace.append_right rest
    exact (ih _ hrest hd.2).trans (hfirst.trans List.perm_middle.symm)

theorem entries_ofList_perm {l : List (String × α)} (hd : (l.map (·.1)).Nodup) :
    (ofList l).entries.Perm l :=
  entries_insertMany_perm l empty (fun _ _ => List.not_mem_nil) hd

theorem ofList_eq_of_perm {l l' : List (String × α)} (h : l'.Perm l) (hd : (l.map (·.1)).Nodup) :
    ofList l' = ofList l := by
  have hd' : (l'.map (·.1)).Nodup := (h.map _).nodup_iff.mpr hd
  exact eq_of_perm ((entries_ofList_perm hd').trans (h.trans (entries_ofList_perm hd).symm))

end Lineup.Keyed
