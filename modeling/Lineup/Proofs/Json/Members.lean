import Lineup.Json.Answer
import Lineup.Document.Record
import Lineup.Proofs.Document.Outline

/-!
What the members of a JSON object may be, and what a schema is told about them: a
text is a text, an integer is a number that was handed over as one and fits 64 bits,
a word is a text or an object that maps it to `null`, and `null` stands for what is
absent, but only where something may be absent. Where in the text a value stands does
not count.
-/

namespace Lineup.Json

open Document Steps

variable {α : Type} {n n' : Node} {s : String}

namespace Node

/-! ## Kinds of values -/

def IsNull (n : Node) : Prop := ∃ start after, n = .scalar start after .null

def IsText (n : Node) (s : String) : Prop := ∃ start after, n = .scalar start after (.text s)

def IsInteger (n : Node) (i : Int64) : Prop :=
  ∃ start after, n = .scalar start after (.number (.integer i.toInt))

/-- A word is written as text or as an object that maps it to `null`. -/
def IsWord (n : Node) (s : String) : Prop :=
  n.IsText s ∨ ∃ start afterKey beside rest,
    n = .object start [⟨s, afterKey, beside⟩] (.ok rest) ∧ beside.IsNull

/-- A value that may be absent is absent if it is `null`. -/
def Perhaps (P : Node → α → Prop) (n : Node) : Option α → Prop
  | none => n.IsNull
  | some a => P n a

/-! ## The same value at another place -/

mutual

/-- The same node, or complete values that differ in nothing but their places in a text. -/
inductive Same : Node → Node → Prop
  | refl (n : Node) : Same n n
  | scalar {start after start' after' : Rest} {value : Scalar} :
    Same (.scalar start after value) (.scalar start' after' value)
  | list {start rest start' rest' : Rest} {items items' : List Node}
    (hitems : SameItems items items') :
    Same (.list start items (.ok rest)) (.list start' items' (.ok rest'))
  | object {start rest start' rest' : Rest} {members members' : List (Member Node)}
    (hmembers : SameMembers members members') :
    Same (.object start members (.ok rest)) (.object start' members' (.ok rest'))

inductive SameItems : List Node → List Node → Prop
  | nil : SameItems [] []
  | cons {v v' : Node} {vs vs' : List Node} (h : Same v v') (hrest : SameItems vs vs') :
    SameItems (v :: vs) (v' :: vs')

inductive SameMembers : List (Member Node) → List (Member Node) → Prop
  | nil : SameMembers [] []
  | cons {key : String} {afterKey afterKey' : Rest} {v v' : Node} {ms ms' : List (Member Node)}
    (h : Same v v') (hrest : SameMembers ms ms') :
    SameMembers (⟨key, afterKey, v⟩ :: ms) (⟨key, afterKey', v'⟩ :: ms')

end

namespace Same

mutual

theorem symm {n n' : Node} : Same n n' → Same n' n
  | .refl n => .refl n
  | .scalar => .scalar
  | .list hitems => .list (symmItems hitems)
  | .object hmembers => .object (symmMembers hmembers)

theorem symmItems {vs vs' : List Node} : SameItems vs vs' → SameItems vs' vs
  | .nil => .nil
  | .cons h hrest => .cons h.symm (symmItems hrest)

theorem symmMembers {ms ms' : List (Member Node)} : SameMembers ms ms' → SameMembers ms' ms
  | .nil => .nil
  | .cons h hrest => .cons h.symm (symmMembers hrest)

end

theorem isNull (h : Same n n') (hn : n.IsNull) : n'.IsNull := by
  obtain ⟨start, after, rfl⟩ := hn
  cases h <;> exact ⟨_, _, rfl⟩

theorem isText (h : Same n n') (hn : n.IsText s) : n'.IsText s := by
  obtain ⟨start, after, rfl⟩ := hn
  cases h <;> exact ⟨_, _, rfl⟩

theorem isInteger (h : Same n n') {i : Int64} (hn : n.IsInteger i) : n'.IsInteger i := by
  obtain ⟨start, after, rfl⟩ := hn
  cases h <;> exact ⟨_, _, rfl⟩

theorem isWord (h : Same n n') (hn : n.IsWord s) : n'.IsWord s := by
  rcases hn with htext | ⟨start, afterKey, beside, rest, rfl, hnull⟩
  · exact .inl (h.isText htext)
  · cases h with
    | refl => exact .inr ⟨start, afterKey, beside, rest, rfl, hnull⟩
    | object hmembers =>
      cases hmembers with
      | cons hbeside hrest =>
        cases hrest
        exact .inr ⟨_, _, _, _, rfl, hbeside.isNull hnull⟩

theorem isNull_iff (h : Same n n') : n.IsNull ↔ n'.IsNull := ⟨h.isNull, h.symm.isNull⟩

theorem isText_iff (h : Same n n') : n.IsText s ↔ n'.IsText s := ⟨h.isText, h.symm.isText⟩

theorem isInteger_iff (h : Same n n') {i : Int64} : n.IsInteger i ↔ n'.IsInteger i :=
  ⟨h.isInteger, h.symm.isInteger⟩

theorem isWord_iff (h : Same n n') : n.IsWord s ↔ n'.IsWord s := ⟨h.isWord, h.symm.isWord⟩

theorem perhaps_iff {P : Node → α → Prop} (h : Same n n') (hP : ∀ a, P n a ↔ P n' a)
    {o : Option α} : n.Perhaps P o ↔ n'.Perhaps P o := by
  cases o with
  | none => exact h.isNull_iff
  | some a => exact hP a

end Same

/-! ## Answers -/

theorem text_eq_ok_iff (expected : String) :
    (Reading.text expected n : Except Fault String) = .ok s ↔ n.IsText s := by
  constructor
  · intro h
    change answerText expected n = _ at h
    unfold answerText at h
    split at h
    · cases h
      exact ⟨_, _, rfl⟩
    · cases h
  · rintro ⟨start, after, rfl⟩
    rfl

theorem integer_eq_ok_iff {i : Int64} :
    (Reading.integer n : Except Fault Int64) = .ok i ↔ n.IsInteger i := by
  constructor
  · intro h
    change answerInteger n = _ at h
    unfold answerInteger at h
    split at h
    · rename_i start after m
      split at h
      · rename_i hfits
        obtain ⟨j, rfl⟩ := (Numeral.fitsSigned_iff m).mp hfits
        rw [Int64.ofInt_toInt] at h
        cases h
        exact ⟨start, after, rfl⟩
      · cases h
    · cases h
  · rintro ⟨start, after, rfl⟩
    change answerInteger _ = _
    have hfits := (Numeral.fitsSigned_iff _).mpr ⟨i, rfl⟩
    simp [answerInteger, hfits]

theorem chosen_eq_ok_iff {words : List (String × α)} {after : Rest} {a : α} :
    chosen words s after = .ok a ↔ words.lookup s = some a := by
  rw [chosen]
  cases words.lookup s <;> simp

theorem answerAlone_eq_ok_iff {m : Member Node} {more : List (Member Node)}
    {finish : Except Fault Rest} :
    answerAlone m more finish = .ok () ↔
      m.value.IsNull ∧ more = [] ∧ ∃ rest, finish = .ok rest := by
  constructor
  · intro h
    unfold answerAlone at h
    split at h
    · rename_i start after hvalue
      split at h
      · exact ⟨⟨start, after, hvalue⟩, rfl, _, rfl⟩
      · split at h <;> cases h
    · cases h
  · rintro ⟨⟨start, after, hvalue⟩, rfl, rest, rfl⟩
    simp [answerAlone, hvalue]

theorem choice_eq_ok_iff {words : List (String × α)} {a : α} :
    (Reading.choice words n : Except Fault α) = .ok a ↔
      ∃ s, n.IsWord s ∧ words.lookup s = some a := by
  constructor
  · intro h
    change answerChoice words n = _ at h
    unfold answerChoice at h
    split at h
    case h_1 start after s =>
      exact ⟨s, .inl ⟨start, after, rfl⟩, chosen_eq_ok_iff.mp h⟩
    case h_2 start m more finish =>
      obtain ⟨a', ha', h⟩ := bind_eq_ok_iff.mp h
      obtain ⟨_, halone, h⟩ := bind_eq_ok_iff.mp h
      cases h
      obtain ⟨hnull, rfl, rest, rfl⟩ := answerAlone_eq_ok_iff.mp halone
      exact ⟨m.key, .inr ⟨start, m.afterKey, m.value, rest, rfl, hnull⟩, chosen_eq_ok_iff.mp ha'⟩
    case h_4 =>
      split at h <;> cases h
    all_goals cases h
  · rintro ⟨s, ⟨start, after, rfl⟩ | ⟨start, afterKey, beside, rest, rfl, hnull⟩, hs⟩
    · exact chosen_eq_ok_iff.mpr hs
    · have halone : answerAlone ⟨s, afterKey, beside⟩ [] (.ok rest) = .ok () :=
        answerAlone_eq_ok_iff.mpr ⟨hnull, rfl, rest, rfl⟩
      exact bind_eq_ok_iff.mpr ⟨a, chosen_eq_ok_iff.mpr hs, bind_eq_ok_iff.mpr ⟨_, halone, rfl⟩⟩

/-- Whatever can be read as something is there. -/
theorem readOptional_eq_ok_iff {read : Node → Except Fault α} {P : Node → α → Prop}
    (hread : ∀ a, read n = .ok a ↔ P n a)
    (hthere : ∀ a, P n a → (Reading.optional n : Except Fault (Option Node)) = .ok (some n))
    {o : Option α} : readOptional read n = .ok o ↔ n.Perhaps P o := by
  rw [readOptional, bind_eq_ok_iff]
  constructor
  · rintro ⟨answer, hanswer, h⟩
    change answerOptional n = _ at hanswer
    unfold answerOptional at hanswer
    split at hanswer
    · cases hanswer
      cases h
      exact ⟨_, _, rfl⟩
    · cases hanswer
    · cases hanswer
      obtain ⟨a, ha, rfl⟩ := map_eq_ok_iff.mp h
      exact (hread a).mp ha
  · intro h
    cases o with
    | none =>
      obtain ⟨start, after, rfl⟩ := h
      exact ⟨none, rfl, rfl⟩
    | some a => exact ⟨some n, hthere a h, map_eq_ok_iff.mpr ⟨a, (hread a).mpr h, rfl⟩⟩

theorem IsText.optional_eq (h : n.IsText s) :
    (Reading.optional n : Except Fault (Option Node)) = .ok (some n) := by
  obtain ⟨start, after, rfl⟩ := h
  rfl

theorem IsInteger.optional_eq {i : Int64} (h : n.IsInteger i) :
    (Reading.optional n : Except Fault (Option Node)) = .ok (some n) := by
  obtain ⟨start, after, rfl⟩ := h
  rfl

theorem IsWord.optional_eq (h : n.IsWord s) :
    (Reading.optional n : Except Fault (Option Node)) = .ok (some n) := by
  rcases h with h | ⟨start, afterKey, beside, rest, rfl, -⟩
  · exact h.optional_eq
  · rfl

/-! ## Objects -/

/-- The members of an object, each under its key. -/
def pairs (members : List (Member Node)) : List (String × Node) :=
  members.map fun m => (m.key, m.value)

theorem keys_pairs (members : List (Member Node)) :
    (pairs members).map (·.1) = members.map (·.key) := List.map_map

theorem isMap_object (start : Rest) (members : List (Member Node)) (finish : Except Fault Rest) :
    IsMap (Node.object start members finish) ⟨members.map entry, finish.map reportAt⟩ := by
  refine ⟨fun _ => rfl, fun _ => rfl, fun e he expected expected' name hname => ?_⟩
  obtain ⟨m, -, rfl⟩ := List.mem_map.mp he
  exact hname

theorem hands_pairs (members : List (Member Node)) (rest : Rest) :
    Entries.Hands ⟨members.map entry, .ok (reportAt rest)⟩ (pairs members) := by
  refine ⟨?_, _, rfl⟩
  rw [pairs, List.forall₂_map_left_iff, List.forall₂_map_right_iff, List.forall₂_same]
  exact fun m _ => ⟨fun _ => rfl, rfl⟩

theorem maps_object (start rest : Rest) (members : List (Member Node)) :
    Maps (Node.object start members (.ok rest)) (pairs members) :=
  ⟨_, isMap_object start members (.ok rest), hands_pairs members rest⟩

/-! ## Trees -/

def kinds : Kinds Node where
  text := IsText
  integer := IsInteger
  list n vs := ∃ start rest, n = .list start vs (.ok rest)
  map n ms := ∃ start members rest, n = .object start members (.ok rest) ∧ ms = pairs members

theorem answers_kinds : kinds.Answers where
  text h expected := (text_eq_ok_iff expected).mpr h
  choice {n s} h α words a := by
    obtain ⟨start, after, rfl⟩ := h
    exact chosen_eq_ok_iff
  textThere h := h.optional_eq
  integer h := integer_eq_ok_iff.mpr h
  integerThere h := h.optional_eq
  list h := by
    obtain ⟨start, rest, rfl⟩ := h
    refine ⟨_, rfl, ⟨_, rfl⟩, ?_⟩
    simp [Function.comp_def, item]
  map h := by
    obtain ⟨start, members, rest, rfl, rfl⟩ := h
    exact maps_object start rest members

theorem shows_object {start rest : Rest} {members : List (Member Node)}
    {ms : List (String × Outline)} (h : Correspond kinds.Shows (pairs members) ms) :
    kinds.Shows (.object start members (.ok rest)) (.map ms) :=
  .of_correspond ⟨start, members, rest, rfl, rfl⟩ h

end Node

/-! ## Texts -/

theorem closeText_eq_ok_iff {n : Node} :
    closeText n = .ok () ↔ ∃ rest, n.after = .ok rest ∧ Node.skipBlank rest = [] := by
  rw [closeText, bind_eq_ok_iff]
  refine exists_congr fun rest => and_congr_right' ?_
  split <;> simp_all

theorem decode_eq_ok_iff {α : Type} {read : (Cause → Fault) → Node → Except Fault α} {a : α}
    {text : String} : decode read text = .ok a ↔
      read (.schema · none) (ofText text) = .ok a ∧ closeText (ofText text) = .ok () := by
  rw [decode, mapError_eq_ok_iff, bind_eq_ok_iff]
  constructor
  · rintro ⟨a', ha', h⟩
    obtain ⟨_, hclose, h⟩ := bind_eq_ok_iff.mp h
    cases h
    exact ⟨ha', hclose⟩
  · rintro ⟨ha, hclose⟩
    exact ⟨a, ha, bind_eq_ok_iff.mpr ⟨_, hclose, rfl⟩⟩

end Lineup.Json
