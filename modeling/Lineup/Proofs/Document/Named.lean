import Lineup.Document.Record
import Lineup.Proofs.Steps
import Mathlib.Data.List.Perm.Basic

/-!
Records that are written as a map. If the map has known members only, each of them
once and readable, and none that is needed is missing, then the record is read, and
what is gathered are the changes that the members stand for, in the order of the map.
-/

namespace Lineup.Document

variable {ν ε σ α β γ : Type}

theorem forall₂_comp {R : α → β → Prop} {S : β → γ → Prop} {T : α → γ → Prop} {as : List α}
    {bs : List β} {cs : List γ} (h : ∀ {a b c}, R a b → S b c → T a c) (hR : List.Forall₂ R as bs)
    (hS : List.Forall₂ S bs cs) : List.Forall₂ T as cs := by
  induction hR generalizing cs with
  | nil =>
    cases hS
    exact .nil
  | cons hab _ ih =>
    cases hS with
    | cons hbc hrest => exact .cons (h hab hbc) (ih hrest)

namespace Record

/-- An entry that a record reads as a change of what is gathered, under the name of a member. -/
structure Takes (r : Record ν ε σ) (e : Entry ν ε) (c : String × (σ → σ)) : Prop where
  name : ∀ expected, e.name expected = .ok c.1
  read : ∃ m, r.members.find? (·.name = c.1) = some m ∧ m.read e.value = .ok c.2

def apply (changes : List (String × (σ → σ))) (s : σ) : σ := changes.foldl (fun s c => c.2 s) s

/-- No two changes stand in each other's way. -/
def Commute (changes : List (String × (σ → σ))) : Prop :=
  ∀ c ∈ changes, ∀ c' ∈ changes, ∀ s, c.2 (c'.2 s) = c'.2 (c.2 s)

theorem apply_perm {cs cs' : List (String × (σ → σ))} (h : cs'.Perm cs) (hc : Commute cs) (s : σ) :
    apply cs' s = apply cs s :=
  h.foldl_eq' (fun c hm c' hm' s => hc c' (h.mem_iff.mp hm') c (h.mem_iff.mp hm) s) s

theorem readEntries_of_takes {r : Record ν ε σ} {es : List (Entry ν ε)}
    {cs : List (String × (σ → σ))} (h : List.Forall₂ r.Takes es cs)
    (hd : (cs.map (·.1)).Nodup) {seen : List String} (hnew : ∀ c ∈ cs, c.1 ∉ seen) (s : σ) :
    r.readEntries seen s es = .ok ((cs.map (·.1)).reverse ++ seen, apply cs s) := by
  induction h generalizing seen s with
  | nil => rfl
  | @cons e c es cs he _ ih =>
    obtain ⟨m, hfind, hread⟩ := he.read
    obtain ⟨hfirst, hrest⟩ := List.forall_mem_cons.mp hnew
    rw [List.map_cons, List.nodup_cons] at hd
    have hnext : ∀ c' ∈ cs, c'.1 ∉ c.1 :: seen := by
      intro c' hc' hm
      rcases List.mem_cons.mp hm with heq | hm
      · exact hd.1 (heq ▸ List.mem_map_of_mem hc')
      · exact hrest c' hc' hm
    rw [readEntries, he.name]
    simp only [bind, Except.bind, hfind, hfirst, ↓reduceIte, hread]
    rw [ih hd.2 hnext (c.2 s), List.map_cons, List.reverse_cons, List.append_assoc]
    rfl

theorem readNamed_of_takes {r : Record ν ε σ} {es : Entries ν ε} {cs : List (String × (σ → σ))}
    (h : List.Forall₂ r.Takes es.entries cs) (hd : (cs.map (·.1)).Nodup)
    {report : Cause → ε} (hfinish : es.finish = .ok report)
    (hneeded : ∀ m ∈ r.members, m.needed = true → m.name ∈ cs.map (·.1)) (s : σ) :
    r.readNamed s es = .ok (apply cs s) := by
  have hnone : r.members.find? (fun m => m.needed ∧ m.name ∉ (cs.map (·.1)).reverse ++ []) =
      none := by
    rw [List.find?_eq_none]
    intro m hm
    have hmem := hneeded m hm
    simp only [List.append_nil, List.mem_reverse, decide_eq_true_eq, not_and, not_not]
    exact hmem
  rw [readNamed, readEntries_of_takes h hd (fun _ _ => List.not_mem_nil) s]
  simp only [bind, Except.bind, hfinish, hnone]

end Record
end Lineup.Document
