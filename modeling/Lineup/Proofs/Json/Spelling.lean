import Lineup.Json.Node
import Lineup.Json.Value
import Lineup.Proofs.Text.Splitting
import Mathlib.Data.List.Forall2
import Mathlib.Data.String.Basic

/-!
The texts that spell a JSON value: its texts and brackets are fixed, blanks may
stand between its parts. A value that is written out is spelled, on one line or
over several ones.
-/

namespace Lineup.Json

def Blank (w : Rest) : Prop := ∀ c ∈ w, Node.isBlank c = true

/-- What follows the first part between two brackets: further parts, each behind a comma, and
the closing bracket. -/
inductive Chain {α : Type} (Part : α → Rest → Prop) (closing : Char) : List α → Rest → Prop
  | close {w : Rest} : Blank w → Chain Part closing [] (w ++ [closing])
  | next {a : α} {as : List α} {w w' t t' : Rest} : Blank w → Blank w' → Part a t →
      Chain Part closing as t' → Chain Part closing (a :: as) (w ++ ',' :: (w' ++ (t ++ t')))

mutual

inductive Spells : Value → Rest → Prop
  | null : Spells .null ['n', 'u', 'l', 'l']
  | text (s : String) : Spells (.text s) (Value.writtenText s).toList
  | emptyList {w : Rest} : Blank w → Spells (.list []) ('[' :: (w ++ [']']))
  | list {v : Value} {vs : List Value} {w t t' : Rest} : Blank w → Spells v t →
      Chain Spells ']' vs t' → Spells (.list (v :: vs)) ('[' :: (w ++ (t ++ t')))
  | emptyObject {w : Rest} : Blank w → Spells (.object []) ('\x7b' :: (w ++ ['\x7d']))
  | object {m : String × Value} {ms : List (String × Value)} {w t t' : Rest} : Blank w →
      SpellsMember m t → Chain SpellsMember '\x7d' ms t' →
      Spells (.object (m :: ms)) ('\x7b' :: (w ++ (t ++ t')))

inductive SpellsMember : String × Value → Rest → Prop
  | member {name : String} {v : Value} {w w' t : Rest} : Blank w → Blank w' → Spells v t →
      SpellsMember (name, v) ((Value.writtenText name).toList ++ (w ++ ':' :: (w' ++ t)))

end

/-! ## Values that are written out -/

/-- Parts between brackets: `w` in front of each part and `w'` in front of the closing bracket. -/
def enclosed (opening closing : Char) (w w' : Rest) : List Rest → Rest
  | [] => [opening, closing]
  | t :: ts => opening :: (w ++ (t ++ ((ts.map (w ++ ·)).flatMap (',' :: ·) ++ (w' ++ [closing]))))

theorem blank_nil : Blank [] := fun _ h => absurd h List.not_mem_nil

theorem chain_of_forall₂ {α : Type} {Part : α → Rest → Prop} {closing : Char} {as : List α}
    {ts : List Rest} {w w' : Rest} (hw : Blank w) (hw' : Blank w') (h : List.Forall₂ Part as ts) :
    Chain Part closing as ((ts.map (w ++ ·)).flatMap (',' :: ·) ++ (w' ++ [closing])) := by
  induction h with
  | nil => exact .close hw'
  | cons hpart _ ih =>
    have hnext := Chain.next blank_nil hw hpart ih
    simpa using hnext

theorem spells_enclosed_list {vs : List Value} {ts : List Rest} {w w' : Rest} (hw : Blank w)
    (hw' : Blank w') (h : List.Forall₂ Spells vs ts) :
    Spells (.list vs) (enclosed '[' ']' w w' ts) := by
  cases h with
  | nil => exact .emptyList blank_nil
  | cons hv hvs => exact .list hw hv (chain_of_forall₂ hw hw' hvs)

theorem spells_enclosed_object {ms : List (String × Value)} {ts : List Rest} {w w' : Rest}
    (hw : Blank w) (hw' : Blank w') (h : List.Forall₂ SpellsMember ms ts) :
    Spells (.object ms) (enclosed '\x7b' '\x7d' w w' ts) := by
  cases h with
  | nil => exact .emptyObject blank_nil
  | cons hm hms => exact .object hw hm (chain_of_forall₂ hw hw' hms)

namespace Value

/-- A new line, with two blanks for each level. -/
def margin (level : Nat) : Rest := '\n' :: List.replicate (2 * level) ' '

theorem blank_margin (level : Nat) : Blank (margin level) := by
  intro c hc
  rcases List.mem_cons.mp hc with rfl | hc
  · rfl
  · rw [List.eq_of_mem_replicate hc]
    rfl

theorem toList_pushn (s : String) (c : Char) (n : Nat) :
    (s.pushn c n).toList = s.toList ++ List.replicate n c := by
  induction n with
  | zero => exact (List.append_nil _).symm
  | succ n ih =>
    have hpush : s.pushn c (n + 1) = (s.pushn c n).push c := rfl
    rw [hpush, String.toList_push, ih, List.replicate_succ', List.append_assoc]

theorem toList_brackets {opening closing : String} {o c : Char} (ho : opening.toList = [o])
    (hc : closing.toList = [c]) (parts : List String) :
    (opening ++ ",".intercalate parts ++ closing).toList =
      enclosed o c [] [] (parts.map String.toList) := by
  have hcomma : ",".toList = [','] := rfl
  rw [String.toList_append, String.toList_append, String.toList_intercalate, ho, hc, hcomma]
  cases parts with
  | nil => simp [enclosed]
  | cons part parts =>
    rw [List.map_cons, Lineup.Text.intercalate_cons]
    simp [enclosed, Function.comp_def]

theorem toList_spread {opening closing : String} {o c : Char} (ho : opening.toList = [o])
    (hc : closing.toList = [c]) (level : Nat) (parts : List String) :
    (spread opening closing level parts).toList =
      enclosed o c (margin (level + 1)) (margin level) (parts.map String.toList) := by
  have hcomma : ",".toList = [','] := rfl
  have hmargin : ∀ n, ("\n" ++ "".pushn ' ' (2 * n)).toList = margin n := by
    intro n
    rw [String.toList_append, toList_pushn]
    rfl
  cases parts with
  | nil => simp [spread, enclosed, ho, hc]
  | cons part parts =>
    simp only [spread, List.isEmpty_cons, Bool.false_eq_true, ↓reduceIte, List.map_cons]
    rw [String.toList_append, String.toList_append, String.toList_append,
      String.toList_intercalate, ho, hc, hcomma, hmargin, List.map_cons,
      Lineup.Text.intercalate_cons, String.toList_append, hmargin, List.map_map]
    simp [enclosed, Function.comp_def, hmargin]

mutual

theorem spells_compact : ∀ v : Value, Spells v v.compact.toList
  | null => .null
  | text s => .text s
  | list items => by
    rw [compact, toList_brackets (o := '[') (c := ']') rfl rfl]
    exact spells_enclosed_list blank_nil blank_nil (spells_compactItems items)
  | object members => by
    rw [compact, toList_brackets (o := '\x7b') (c := '\x7d') rfl rfl]
    exact spells_enclosed_object blank_nil blank_nil (spells_compactMembers members)

theorem spells_compactItems : ∀ vs : List Value,
    List.Forall₂ Spells vs ((compactItems vs).map String.toList)
  | [] => .nil
  | v :: vs => .cons (spells_compact v) (spells_compactItems vs)

theorem spells_compactMembers : ∀ ms : List (String × Value),
    List.Forall₂ SpellsMember ms ((compactMembers ms).map String.toList)
  | [] => .nil
  | (name, v) :: ms => by
    have hmember : SpellsMember (name, v)
        ((writtenText name).toList ++ ([] ++ ':' :: ([] ++ v.compact.toList))) :=
      .member blank_nil blank_nil (spells_compact v)
    refine .cons ?_ (spells_compactMembers ms)
    simpa [String.toList_append] using hmember

end

mutual

theorem spells_pretty : ∀ (level : Nat) (v : Value), Spells v (v.pretty level).toList
  | _, null => by
    rw [pretty]
    exact .null
  | _, text s => by
    rw [pretty]
    exact .text s
  | level, list items => by
    rw [pretty, toList_spread (o := '[') (c := ']') rfl rfl]
    exact spells_enclosed_list (blank_margin _) (blank_margin _)
      (spells_prettyItems (level + 1) items)
  | level, object members => by
    rw [pretty, toList_spread (o := '\x7b') (c := '\x7d') rfl rfl]
    exact spells_enclosed_object (blank_margin _) (blank_margin _)
      (spells_prettyMembers (level + 1) members)

theorem spells_prettyItems : ∀ (level : Nat) (vs : List Value),
    List.Forall₂ Spells vs ((prettyItems level vs).map String.toList)
  | _, [] => .nil
  | level, v :: vs => .cons (spells_pretty level v) (spells_prettyItems level vs)

theorem spells_prettyMembers : ∀ (level : Nat) (ms : List (String × Value)),
    List.Forall₂ SpellsMember ms ((prettyMembers level ms).map String.toList)
  | _, [] => .nil
  | level, (name, v) :: ms => by
    have hblank : Blank [' '] := fun c hc => by rw [List.mem_singleton.mp hc]; rfl
    have hmember : SpellsMember (name, v)
        ((writtenText name).toList ++ ([] ++ ':' :: ([' '] ++ (v.pretty level).toList))) :=
      .member blank_nil hblank (spells_pretty level v)
    refine .cons ?_ (spells_prettyMembers level ms)
    simpa [String.toList_append] using hmember

end

end Value
end Lineup.Json
