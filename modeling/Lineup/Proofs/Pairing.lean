import Mathlib.Data.List.Forall2
import Mathlib.Tactic.Common

/-!
Lists that are related element by element.
-/

namespace Lineup.Pairing

variable {α β γ : Type} {R : α → β → Prop} {as : List α} {bs : List β}

theorem exists_right (h : List.Forall₂ R as bs) {a : α} (ha : a ∈ as) : ∃ b ∈ bs, R a b := by
  induction h with
  | nil => cases ha
  | cons hab _ ih =>
    rcases List.mem_cons.mp ha with rfl | ha
    · exact ⟨_, List.mem_cons_self, hab⟩
    · obtain ⟨b, hb, hR⟩ := ih ha
      exact ⟨b, List.mem_cons_of_mem _ hb, hR⟩

theorem exists_left (h : List.Forall₂ R as bs) {b : β} (hb : b ∈ bs) : ∃ a ∈ as, R a b :=
  exists_right (R := flip R) h.flip hb

theorem map_eq {f : α → γ} {g : β → γ} (hR : ∀ a b, R a b → f a = g b)
    (h : List.Forall₂ R as bs) : as.map f = bs.map g := by
  induction h with
  | nil => rfl
  | cons hab _ ih => rw [List.map_cons, List.map_cons, hR _ _ hab, ih]

/-- Partners for the elements one by one are partners for the list. -/
theorem exists_forall₂ (h : ∀ a ∈ as, ∃ b, R a b) : ∃ bs, List.Forall₂ R as bs := by
  induction as with
  | nil => exact ⟨[], .nil⟩
  | cons a as ih =>
    obtain ⟨b, hb⟩ := h a List.mem_cons_self
    obtain ⟨bs, hbs⟩ := ih fun a' ha' => h a' (List.mem_cons_of_mem _ ha')
    exact ⟨b :: bs, .cons hb hbs⟩

/-- Two relations of the pairs of the same lists, of which one need only hold of elements. -/
theorem imp_of_mem {S : α → β → Prop} (hS : ∀ a ∈ as, ∀ b ∈ bs, R a b → S a b)
    (h : List.Forall₂ R as bs) : List.Forall₂ S as bs := by
  induction h with
  | nil => exact .nil
  | cons hab _ ih =>
    refine .cons (hS _ List.mem_cons_self _ List.mem_cons_self hab) (ih fun a ha b hb => ?_)
    exact hS a (List.mem_cons_of_mem _ ha) b (List.mem_cons_of_mem _ hb)

/-- Pairs with the same keys and related values, which are given one after the other. -/
theorem of_keys_of_values {κ : Type} {ms : List (κ × α)} {ms' : List (κ × β)}
    (hkeys : ms.map (·.1) = ms'.map (·.1))
    (hvalues : List.Forall₂ R (ms.map (·.2)) (ms'.map (·.2))) :
    List.Forall₂ (fun m m' => m.1 = m'.1 ∧ R m.2 m'.2) ms ms' := by
  induction ms generalizing ms' with
  | nil =>
    cases ms' with
    | nil => exact .nil
    | cons m' ms' => cases hvalues
  | cons m ms ih =>
    cases ms' with
    | nil => cases hvalues
    | cons m' ms' =>
      obtain ⟨hkey, hkeys⟩ := List.cons.inj hkeys
      obtain ⟨hvalue, hvalues⟩ := List.forall₂_cons.mp hvalues
      exact .cons ⟨hkey, hvalue⟩ (ih hkeys hvalues)

end Lineup.Pairing
