import Lineup.Json.Answer
import Lineup.Proofs.Document.Named
import Lineup.Proofs.Json.Reading

/-!
What a schema is told about a tree that holds a value: the texts, the elements and
the members of the value. So what a schema makes of such trees it makes of every
text that spells the value.
-/

namespace Lineup.Json

open Document

namespace Holds

variable {n : Node} {s : String}

theorem text_eq (h : Holds n (.text s)) (expected : String) :
    (Reading.text expected n : Except Fault String) = .ok s := by
  cases h
  rfl

theorem choice_eq {α : Type} {words : List (String × α)} {a : α} (h : Holds n (.text s))
    (hs : words.lookup s = some a) : (Reading.choice words n : Except Fault α) = .ok a := by
  cases h with
  | text =>
    change Node.chosen words s _ = _
    rw [Node.chosen, hs]

theorem optional_eq (h : Holds n (.text s)) :
    (Reading.optional n : Except Fault (Option Node)) = .ok (some n) := by
  cases h
  rfl

theorem items_eq {vs : List Value} (h : Holds n (.list vs)) (expected : String) :
    ∃ items : Items Node Fault, Reading.items expected n = .ok items ∧
      (∃ report, items.finish = .ok report) ∧
      List.Forall₂ (fun item v => Holds item.value v) items.items vs := by
  cases h with
  | @list start after ns _ hns =>
    refine ⟨⟨ns.map Node.item, .ok (Node.reportAt after)⟩, rfl, ⟨_, rfl⟩, ?_⟩
    exact List.forall₂_map_left_iff.mpr hns

end Holds

/-- An entry under the name of a member, whose value is held. -/
structure HoldsEntry (e : Entry Node Fault) (m : String × Value) : Prop where
  name : ∀ expected, e.name expected = .ok m.1
  value : Holds e.value m.2

/-- The members of an object, and an end. -/
structure HoldsEntries (es : Entries Node Fault) (ms : List (String × Value)) : Prop where
  entries : List.Forall₂ HoldsEntry es.entries ms
  finish : ∃ report, es.finish = .ok report

theorem Holds.entries_eq {n : Node} {ms : List (String × Value)} (h : Holds n (.object ms)) :
    ∃ es : Entries Node Fault, HoldsEntries es ms ∧
      (∀ expected, Reading.entries expected n = .ok es) ∧
      ∀ expected, Reading.members expected n = .ok (.named es) := by
  cases h with
  | @object start after ns _ hns =>
    refine ⟨⟨ns.map Node.entry, .ok (Node.reportAt after)⟩, ⟨?_, _, rfl⟩, fun _ => rfl,
      fun _ => rfl⟩
    refine List.forall₂_map_left_iff.mpr (hns.imp fun m e hm => ?_)
    cases hm with
    | member hv => exact ⟨fun _ => rfl, hv⟩

/-- **Documents.** -/
theorem decode_of_spells {α : Type} {read : (Cause → Fault) → Node → Except Fault α} {a : α}
    {v : Value} {s : String} (h : Spells v s.toList) (hd : v.depth ≤ 127)
    (hread : ∀ n, Holds n v → read (.schema · none) n = .ok a) : decode read s = .ok a := by
  have hgives := reads_read 127 hd blank_nil h []
  rw [List.append_nil] at hgives
  change (ofText s).Gives v [] at hgives
  have hclose : closeText (ofText s) = .ok () := by
    rw [closeText, hgives.after]
    rfl
  rw [decode]
  simp only [hread _ hgives.holds, hclose, bind, Except.bind, Except.mapError]

/-- Under the name of the member, the record reads each node that holds its value as the change. -/
def Understands {σ : Type} (r : Record Node Fault σ) (m : String × Value)
    (c : String × (σ → σ)) : Prop :=
  ∀ e, HoldsEntry e m → r.Takes e c

theorem understands_of_read {σ : Type} {r : Record Node Fault σ} {m : Document.Member Node Fault σ}
    {name : String} {v : Value} {change : σ → σ} (hfind : r.members.find? (·.name = name) = some m)
    (hread : ∀ n, Holds n v → m.read n = .ok change) : Understands r (name, v) (name, change) :=
  fun e he => ⟨he.name, m, hfind, hread e.value he.value⟩

/-- A record whose members are written as an object, in any order. -/
theorem read_of_understands {σ : Type} {r : Record Node Fault σ} {n : Node}
    {ms ms' : List (String × Value)} {cs : List (String × (σ → σ))} (h : Holds n (.object ms'))
    (hperm : ms'.Perm ms) (hcs : List.Forall₂ (Understands r) ms cs)
    (hd : (cs.map (·.1)).Nodup) (hc : Record.Commute cs)
    (hneeded : ∀ m ∈ r.members, m.needed = true → m.name ∈ cs.map (·.1)) (s : σ) :
    r.read s n = .ok (Record.apply cs s) := by
  obtain ⟨es, ⟨hes, report, hfinish⟩, -, hmembers⟩ := h.entries_eq
  obtain ⟨cs', hcs', hperm'⟩ := List.perm_comp_forall₂ hperm hcs
  have hnames := hperm'.map (·.1)
  have htakes : List.Forall₂ r.Takes es.entries cs' :=
    forall₂_comp (fun he hm => hm _ he) hes hcs'
  rw [Record.read, hmembers, ← Record.apply_perm hperm' hc s]
  refine Record.readNamed_of_takes htakes (hnames.nodup_iff.mpr hd) hfinish (fun m hm hn => ?_) s
  exact hnames.mem_iff.mpr (hneeded m hm hn)

end Lineup.Json
