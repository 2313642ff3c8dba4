import Lineup.Yaml.Answer
import Lineup.Proofs.Document.Outline

/-!
What a schema is told about a YAML document. A key is known if it is a scalar, in
whatever style it is written. Other texts are certain to be texts only in quotes or in
a block, because a scalar without quotes may stand for something else.
-/

namespace Lineup.Yaml

open Document Steps

/-- The place of a whole document. -/
def Place.root (v : Node) : Place := { node := v, route := [], anchored := v.anchored }

namespace Place

variable {p : Place} {anchor : Option Nat} {tag : Option String} {members : List (Node × Node)}

/-- What is expected shows in a fault only. -/
theorem answerText_congr {expected s : String} (h : answerText expected p = .ok s)
    (expected' : String) : answerText expected' p = .ok s := by
  unfold answerText at h ⊢
  cases htarget : p.target <;> rw [htarget] at h <;> first | exact h | cases h

theorem isMap_of_target {complete : Bool} (h : p.target = .map anchor tag members complete) :
    IsMap p ⟨members.map p.entry, p.finish complete⟩ := by
  have hentries (expected : String) :
      answerEntries expected p = .ok ⟨members.map p.entry, p.finish complete⟩ := by
    rw [answerEntries, h]
  refine ⟨hentries, fun expected => ?_, fun e he expected expected' name hname => ?_⟩
  · change Members.named <$> answerEntries expected p = _
    rw [hentries]
    rfl
  · obtain ⟨m, -, rfl⟩ := List.mem_map.mp he
    exact answerText_congr hname expected'

/-- The values of a map under the names that stand for its keys. -/
def Pairs (p : Place) (members : List (Node × Node)) (ms : List (String × Place)) : Prop :=
  List.Forall₂ (fun m m' => (p.entry m).name "a string" = .ok m'.1 ∧ (p.entry m).value = m'.2)
    members ms

theorem hands_of_pairs {ms : List (String × Place)} (h : p.Pairs members ms) :
    Entries.Hands ⟨members.map p.entry, p.finish true⟩ ms := by
  refine ⟨?_, p.report, rfl⟩
  rw [List.forall₂_map_left_iff]
  exact h.imp fun m m' hm => ⟨answerText_congr hm.1, hm.2⟩

/-! ## Trees -/

/-- No integer is written like a value that is absent. -/
theorem integer?_of_isNull {text : String} (h : text = "" ∨ Resolution.isNull text = true) :
    Resolution.integer? text.toList = none := by
  simp only [Resolution.isNull, Bool.or_eq_true, decide_eq_true_eq] at h
  rcases h with rfl | ((rfl | rfl) | rfl) | rfl <;> rfl

/-- Anchors do not count, and an alias is the node that it stands for. -/
def kinds : Kinds Place where
  text p s := ∃ anchor style, p.target = .scalar anchor none style s ∧ style ≠ .plain
  integer p n := ∃ anchor text, p.target = .scalar anchor none .plain text ∧
    Resolution.integer? text.toList = some n.toInt
  list p vs := ∃ anchor items, p.target = .list anchor none items true ∧
    vs = (items.mapIdx p.item).map (·.value)
  map p ms := ∃ anchor members, p.target = .map anchor none members true ∧ p.Pairs members ms

theorem optional_of_style {style : Style} {text : String}
    (h : p.target = .scalar anchor tag style text) (hstyle : style ≠ .plain) :
    answerOptional p = .ok (some p) := by
  rw [answerOptional, h]
  cases style <;> first | rfl | exact absurd rfl hstyle

theorem answers_kinds : kinds.Answers where
  text {p s} h expected := by
    obtain ⟨anchor, style, htarget, -⟩ := h
    change answerText expected p = _
    rw [answerText, htarget]
  choice {p s} h α words a := by
    obtain ⟨anchor, style, htarget, -⟩ := h
    change answerChoice words p = _ ↔ _
    have huntagged : tagWord? none = none := rfl
    rw [answerChoice, htarget]
    cases hword : words.lookup s <;> simp [huntagged, hword]
  textThere {p s} h := by
    obtain ⟨anchor, style, htarget, hstyle⟩ := h
    exact optional_of_style htarget hstyle
  integer {p n} h := by
    obtain ⟨anchor, text, htarget, hn⟩ := h
    have hfits := (Numeral.fitsSigned_iff _).mpr ⟨n, rfl⟩
    change answerInteger p = _
    rw [answerInteger, htarget]
    simp [hn, hfits]
  integerThere {p n} h := by
    obtain ⟨anchor, text, htarget, hn⟩ := h
    have hthere : ¬ (text = "" ∨ Resolution.isNull text = true) := by
      intro hnull
      rw [integer?_of_isNull hnull] at hn
      cases hn
    change answerOptional p = _
    rw [answerOptional, htarget]
    simp [hthere]
  list {p vs} h := by
    obtain ⟨anchor, items, htarget, rfl⟩ := h
    refine ⟨⟨items.mapIdx p.item, p.finish true⟩, ?_, ⟨p.report, rfl⟩, rfl⟩
    change answerItems _ p = _
    rw [answerItems, htarget]
  map {p ms} h := by
    obtain ⟨anchor, members, htarget, hms⟩ := h
    exact ⟨_, isMap_of_target htarget, hands_of_pairs hms⟩

theorem shows_map {l : List (String × Place)} {ms : List (String × Outline)}
    (h : p.target = .map anchor none members true) (hl : p.Pairs members l)
    (hms : Correspond kinds.Shows l ms) : kinds.Shows p (.map ms) :=
  .of_correspond ⟨anchor, members, h, hl⟩ hms

end Place

/-! ## Texts -/

theorem decode_eq_ok_iff {α : Type} {read : (Cause → Fault) → Place → Except Fault α} {a : α}
    {text : String} : decode read text = .ok a ↔
      read (.schema · []) (Place.root (ofText text).1) = .ok a ∧ (ofText text).2 = true := by
  rw [decode, mapError_eq_ok_iff, bind_eq_ok_iff]
  constructor
  · rintro ⟨a', ha', h⟩
    split at h
    · rename_i horder
      cases h
      exact ⟨ha', horder⟩
    · cases h
  · rintro ⟨ha, horder⟩
    exact ⟨a, ha, if_pos horder⟩

end Lineup.Yaml
