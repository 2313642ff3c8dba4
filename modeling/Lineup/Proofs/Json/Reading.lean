import Lineup.Json.Answer
import Lineup.Proofs.Json.Spelling

/-!
A JSON text that spells a value is read as a tree that holds this value, whatever
follows behind it.
-/

namespace Lineup.Json

open Value

/-! ## Texts -/

theorem read_plain {c : Char} (hq : c ≠ '"') (hb : c ≠ '\\') (hc : ¬ c < ' ') (done rest : Rest) :
    Text.read done (c :: rest) = Text.read (c :: done) rest := by
  rw [Text.read.eq_def]
  simp [hq, hb, hc]

theorem read_shortEscape {e c : Char} (h : Text.shortEscape? e = some c) (hu : e ≠ 'u')
    (done rest : Rest) : Text.read done ('\\' :: e :: rest) = Text.read (c :: done) rest := by
  rw [Text.read.eq_def]
  simp [h, hu]

/-- A code point below that of a blank is no half of a pair. -/
theorem read_control {a b c d : Char} {n : Nat} (h : Numeral.value? 16 [a, b, c, d] = some n)
    (hn : n < 32) (done rest : Rest) :
    Text.read done ('\\' :: 'u' :: a :: b :: c :: d :: rest) =
      Text.read (Char.ofNat n :: done) rest := by
  have htrailing : Text.isTrailing n = false := by
    simp [Text.isTrailing]
    omega
  have hleading : Text.isLeading n = false := by
    simp [Text.isLeading]
    omega
  rw [Text.read.eq_def]
  simp [h, htrailing, hleading]

theorem control_digits : ∀ n < 32,
    ("\\u00" ++ (if n < 16 then "0" else "") ++ Numeral.hex n).toList =
      ['\\', 'u', '0', '0', Nat.digitChar (n / 16), Nat.digitChar (n % 16)] ∧
    Numeral.value? 16 ['0', '0', Nat.digitChar (n / 16), Nat.digitChar (n % 16)] = some n := by
  decide +kernel

theorem read_writtenChar (c : Char) (done rest : Rest) :
    Text.read done ((writtenChar c).toList ++ rest) = Text.read (c :: done) rest := by
  unfold writtenChar
  split
  · subst_vars
    exact read_shortEscape (e := '"') rfl (by decide) done rest
  split
  · subst_vars
    exact read_shortEscape (e := '\\') rfl (by decide) done rest
  split
  · subst_vars
    exact read_shortEscape (e := 'b') rfl (by decide) done rest
  split
  · subst_vars
    exact read_shortEscape (e := 'f') rfl (by decide) done rest
  split
  · subst_vars
    exact read_shortEscape (e := 'n') rfl (by decide) done rest
  split
  · subst_vars
    exact read_shortEscape (e := 'r') rfl (by decide) done rest
  split
  · subst_vars
    exact read_shortEscape (e := 't') rfl (by decide) done rest
  split
  · rename_i hc
    have hn : c.toNat < 32 := hc
    obtain ⟨htext, hvalue⟩ := control_digits c.toNat hn
    rw [htext]
    have hread := read_control hvalue hn done rest
    rwa [Char.ofNat_toNat] at hread
  · rename_i hq hb _ _ _ _ _ hc
    rw [Char.toString_eq_singleton, String.toList_singleton]
    exact read_plain hq hb hc done rest

theorem read_writtenChars (cs : List Char) (done rest : Rest) :
    Text.read done (cs.flatMap (fun c => (writtenChar c).toList) ++ '"' :: rest) =
      .ok (String.ofList (done.reverse ++ cs), rest) := by
  induction cs generalizing done with
  | nil =>
    rw [List.flatMap_nil, List.nil_append, List.append_nil, Text.read.eq_def]
    rfl
  | cons c cs ih =>
    rw [List.flatMap_cons, List.append_assoc, read_writtenChar, ih]
    simp

theorem toList_writtenText (s : String) :
    (writtenText s).toList = '"' :: (s.toList.flatMap (fun c => (writtenChar c).toList) ++ ['"']) := by
  simp [writtenText, String.toList_append, String.toList_join, List.flatMap_map]

theorem read_writtenText (s : String) (rest : Rest) :
    Text.read [] (s.toList.flatMap (fun c => (writtenChar c).toList) ++ '"' :: rest) =
      .ok (s, rest) := by
  rw [read_writtenChars]
  simp

/-! ## Blanks -/

theorem skipBlank_append {w : Rest} (hw : Blank w) (t : Rest) :
    Node.skipBlank (w ++ t) = Node.skipBlank t := List.dropWhile_append_of_pos hw

theorem skipBlank_append_cons {w : Rest} (hw : Blank w) {c : Char}
    (hc : Node.isBlank c = false) (t : Rest) : Node.skipBlank (w ++ c :: t) = c :: t := by
  rw [skipBlank_append hw]
  simp [Node.skipBlank, hc]

theorem skipBlank_cons {c : Char} (hc : Node.isBlank c = false) (t : Rest) :
    Node.skipBlank (c :: t) = c :: t := by
  simp [Node.skipBlank, hc]

theorem read_skipBlank {w : Rest} (hw : Blank w) (d : Nat) (t : Rest) :
    Node.read d (w ++ t) = Node.read d t := by
  cases d <;> rw [Node.read, Node.read, skipBlank_append hw]

/-! ## Trees -/

mutual

/-- The tree is complete, and has the value in it. -/
inductive Holds : Node → Value → Prop
  | null {start after : Rest} : Holds (.scalar start after .null) .null
  | text {start after : Rest} {s : String} : Holds (.scalar start after (.text s)) (.text s)
  | list {start after : Rest} {ns : List Node} {vs : List Value} : List.Forall₂ Holds ns vs →
      Holds (.list start ns (.ok after)) (.list vs)
  | object {start after : Rest} {ns : List (Member Node)} {ms : List (String × Value)} :
      List.Forall₂ HoldsMember ns ms → Holds (.object start ns (.ok after)) (.object ms)

inductive HoldsMember : Member Node → String × Value → Prop
  | member {name : String} {afterKey : Rest} {n : Node} {v : Value} : Holds n v →
      HoldsMember ⟨name, afterKey, n⟩ (name, v)

end

/-- A tree that holds a value, with `rest` left behind it. -/
structure Node.Gives (n : Node) (v : Value) (rest : Rest) : Prop where
  holds : Holds n v
  after : n.after = .ok rest

namespace Value

mutual

/-- How deep lists and objects are nested. -/
def depth : Value → Nat
  | null => 0
  | text _ => 0
  | list items => depthItems items + 1
  | object members => depthMembers members + 1

def depthItems : List Value → Nat
  | [] => 0
  | v :: vs => max v.depth (depthItems vs)

def depthMembers : List (String × Value) → Nat
  | [] => 0
  | (_, v) :: ms => max v.depth (depthMembers ms)

end

theorem depthItems_le_iff {vs : List Value} {d : Nat} :
    depthItems vs ≤ d ↔ ∀ v ∈ vs, v.depth ≤ d := by
  induction vs with
  | nil => simp [depthItems]
  | cons v vs ih => rw [depthItems, max_le_iff, ih, List.forall_mem_cons]

theorem depthMembers_le_iff {ms : List (String × Value)} {d : Nat} :
    depthMembers ms ≤ d ↔ ∀ m ∈ ms, m.2.depth ≤ d := by
  induction ms with
  | nil => simp [depthMembers]
  | cons m ms ih => rw [depthMembers, max_le_iff, ih, List.forall_mem_cons]

end Value

/-- A spelled value begins with a character that is neither a blank nor a closing bracket. -/
theorem Spells.begins {v : Value} {t : Rest} (h : Spells v t) :
    ∃ c t', t = c :: t' ∧ Node.isBlank c = false ∧ c ≠ ']' := by
  cases h with
  | null => exact ⟨_, _, rfl, rfl, by decide⟩
  | text s => exact ⟨_, _, toList_writtenText s, rfl, by decide⟩
  | emptyList => exact ⟨_, _, rfl, rfl, by decide⟩
  | list => exact ⟨_, _, rfl, rfl, by decide⟩
  | emptyObject => exact ⟨_, _, rfl, rfl, by decide⟩
  | object => exact ⟨_, _, rfl, rfl, by decide⟩

/-- The reader of values gives every value up to a depth from each of its spellings. -/
def Reads (value : Rest → Node) (d : Nat) : Prop :=
  ∀ {v : Value} {w t : Rest}, v.depth ≤ d → Blank w → Spells v t →
    ∀ rest, (value (w ++ (t ++ rest))).Gives v rest

/-! ## Lists -/

theorem readItems_close {value : Rest → Node} {t rest : Rest}
    (h : Node.skipBlank t = ']' :: rest) (fuel : Nat) :
    Node.readItems value (fuel + 1) t = ([], .ok rest) := by
  rw [Node.readItems, h]
  rfl

theorem readItems_next {value : Rest → Node} {t t' rest : Rest} {c : Char} {ns : List Node}
    {finish : Except Fault Rest} {fuel : Nat} (h : Node.skipBlank t = ',' :: t')
    (hnext : Node.skipBlank t' = c :: rest) (hc : c ≠ ']') {after : Rest}
    (hafter : (value (c :: rest)).after = .ok after)
    (hread : Node.readItems value fuel after = (ns, finish)) :
    Node.readItems value (fuel + 1) t = (value (c :: rest) :: ns, finish) := by
  rw [Node.readItems, h]
  simp [hnext, hc, hafter, hread]

theorem readItems_of_chain {value : Rest → Node} {d : Nat} (hvalue : Reads value d)
    {vs : List Value} {t : Rest} (h : Chain Spells ']' vs t) (hd : ∀ v ∈ vs, v.depth ≤ d)
    (rest : Rest) {fuel : Nat} (hfuel : t.length ≤ fuel) :
    ∃ ns, Node.readItems value fuel (t ++ rest) = (ns, .ok rest) ∧ List.Forall₂ Holds ns vs := by
  induction h generalizing fuel with
  | @close w hw =>
    obtain ⟨fuel, rfl⟩ : ∃ n, fuel = n + 1 := ⟨fuel - 1, by simp at hfuel; omega⟩
    refine ⟨[], readItems_close ?_ fuel, .nil⟩
    rw [List.append_assoc]
    exact skipBlank_append_cons hw rfl rest
  | @next v vs w w' t t' hw hw' hv _ ih =>
    obtain ⟨fuel, rfl⟩ : ∃ n, fuel = n + 1 := ⟨fuel - 1, by simp at hfuel; omega⟩
    obtain ⟨hdv, hdvs⟩ := List.forall_mem_cons.mp hd
    obtain ⟨hholds, hafter⟩ := hvalue hdv blank_nil hv (t' ++ rest)
    have hlength : t'.length ≤ fuel := by
      simp at hfuel
      omega
    obtain ⟨ns, hread, hns⟩ := ih hdvs hlength
    obtain ⟨c, t'', rfl, hblank, hclose⟩ := hv.begins
    have hcomma := skipBlank_append_cons hw (c := ',') rfl (w' ++ (c :: t'' ++ (t' ++ rest)))
    have hnext := skipBlank_append_cons hw' hblank (t'' ++ (t' ++ rest))
    have hall := readItems_next hcomma hnext hclose hafter hread
    exact ⟨_, by simpa using hall, .cons hholds hns⟩

theorem readList_first {value : Rest → Node} {t rest : Rest} {c : Char} {ns : List Node}
    {finish : Except Fault Rest} (h : Node.skipBlank t = c :: rest) (hc : c ≠ ']') {after : Rest}
    (hafter : (value (c :: rest)).after = .ok after)
    (hread : Node.readItems value (after.length + 1) after = (ns, finish)) :
    Node.readList value t = (value (c :: rest) :: ns, finish) := by
  rw [Node.readList, h]
  simp [hc, hafter, hread]

/-! ## Objects -/

theorem SpellsMember.begins {m : String × Value} {t : Rest} (h : SpellsMember m t) :
    ∃ t', t = '"' :: t' := by
  cases h with
  | member =>
    rw [toList_writtenText]
    exact ⟨_, rfl⟩

theorem readMember_of_spells {value : Rest → Node} {d : Nat} (hvalue : Reads value d)
    {m : String × Value} {t : Rest} (h : SpellsMember m ('"' :: t)) (hd : m.2.depth ≤ d)
    (rest : Rest) : ∃ afterKey, Text.read [] (t ++ rest) = .ok (m.1, afterKey) ∧
      (Node.readMember value afterKey).Gives m.2 rest := by
  generalize ht : '"' :: t = t' at h
  cases h with
  | @member name v w w' t'' hw hw' hv =>
    rw [toList_writtenText] at ht
    obtain ⟨-, rfl⟩ := List.cons.inj ht
    refine ⟨w ++ ':' :: (w' ++ (t'' ++ rest)), ?_, ?_⟩
    · have hkey := read_writtenText name (w ++ ':' :: (w' ++ (t'' ++ rest)))
      simpa using hkey
    · have hmember : Node.readMember value (w ++ ':' :: (w' ++ (t'' ++ rest))) =
          value (w' ++ (t'' ++ rest)) := by
        rw [Node.readMember, skipBlank_append hw, skipBlank_cons rfl]
        rfl
      rw [hmember]
      exact hvalue hd hw' hv rest

theorem readMembers_member {value : Rest → Node} {key : String} {t afterKey after : Rest}
    {ns : List (Member Node)} {finish : Except Fault Rest} {fuel : Nat}
    (hkey : Text.read [] t = .ok (key, afterKey))
    (hafter : (Node.readMember value afterKey).after = .ok after)
    (hread : Node.readMoreMembers value fuel after = (ns, finish)) :
    Node.readMembers value (fuel + 1) ('"' :: t) =
      (⟨key, afterKey, Node.readMember value afterKey⟩ :: ns, finish) := by
  simp [Node.readMembers, hkey, hafter, hread]

theorem readMoreMembers_close {value : Rest → Node} {t rest : Rest}
    (h : Node.skipBlank t = '\x7d' :: rest) (fuel : Nat) :
    Node.readMoreMembers value (fuel + 1) t = ([], .ok rest) := by
  rw [Node.readMoreMembers, h]
  rfl

theorem readMoreMembers_next {value : Rest → Node} {t t' rest : Rest}
    (h : Node.skipBlank t = ',' :: t') (hnext : Node.skipBlank t' = '"' :: rest) (fuel : Nat) :
    Node.readMoreMembers value (fuel + 1) t = Node.readMembers value fuel ('"' :: rest) := by
  rw [Node.readMoreMembers, h]
  simp [hnext]

theorem readMoreMembers_of_chain {value : Rest → Node} {d : Nat} (hvalue : Reads value d)
    {ms : List (String × Value)} {t : Rest} (h : Chain SpellsMember '\x7d' ms t)
    (hd : ∀ m ∈ ms, m.2.depth ≤ d) (rest : Rest) {fuel : Nat} (hfuel : t.length ≤ fuel) :
    ∃ ns, Node.readMoreMembers value fuel (t ++ rest) = (ns, .ok rest) ∧
      List.Forall₂ HoldsMember ns ms := by
  induction h generalizing fuel with
  | @close w hw =>
    obtain ⟨fuel, rfl⟩ : ∃ n, fuel = n + 1 := ⟨fuel - 1, by simp at hfuel; omega⟩
    refine ⟨[], readMoreMembers_close ?_ fuel, .nil⟩
    rw [List.append_assoc]
    exact skipBlank_append_cons hw rfl rest
  | @next m ms w w' t t' hw hw' hm _ ih =>
    obtain ⟨hdm, hdms⟩ := List.forall_mem_cons.mp hd
    obtain ⟨t, rfl⟩ := hm.begins
    -- One step is spent on the comma and one on the member.
    obtain ⟨fuel, rfl⟩ : ∃ n, fuel = n + 1 + 1 := ⟨fuel - 2, by simp at hfuel; omega⟩
    obtain ⟨afterKey, hkey, hholds, hafter⟩ := readMember_of_spells hvalue hm hdm (t' ++ rest)
    have hlength : t'.length ≤ fuel := by
      simp at hfuel
      omega
    obtain ⟨ns, hread, hns⟩ := ih hdms hlength
    have hcomma := skipBlank_append_cons hw (c := ',') rfl (w' ++ ('"' :: t ++ (t' ++ rest)))
    have hnext := skipBlank_append_cons hw' (c := '"') rfl (t ++ (t' ++ rest))
    have hall := (readMoreMembers_next hcomma hnext (fuel + 1)).trans
      (readMembers_member hkey hafter hread)
    exact ⟨_, by simpa using hall, .cons (.member hholds) hns⟩

theorem readObject_first {value : Rest → Node} {t rest : Rest}
    (h : Node.skipBlank t = '"' :: rest) :
    Node.readObject value t =
      Node.readMembers value (2 * ('"' :: rest).length + 1) ('"' :: rest) := by
  rw [Node.readObject, h]
  rfl

/-! ## Values -/

theorem read_text (d : Nat) (s : String) (rest : Rest) :
    (Node.read d ((writtenText s).toList ++ rest)).Gives (.text s) rest := by
  have hscalar : ∀ t : Rest, Node.read d ('"' :: t) = Node.readScalar ('"' :: t) := by
    intro t
    cases d <;> rw [Node.read, skipBlank_cons rfl] <;> rfl
  rw [toList_writtenText, List.cons_append, List.append_assoc, hscalar, Node.readScalar,
    List.singleton_append, read_writtenText]
  exact ⟨.text, rfl⟩

theorem read_null (d : Nat) (rest : Rest) :
    (Node.read d (['n', 'u', 'l', 'l'] ++ rest)).Gives .null rest := by
  cases d <;> exact ⟨.null, rfl⟩

theorem read_list {d : Nat} {t after : Rest} {ns : List Node} {vs : List Value}
    (h : Node.readList (Node.read d) t = (ns, .ok after)) (hns : List.Forall₂ Holds ns vs) :
    (Node.read (d + 1) ('[' :: t)).Gives (.list vs) after := by
  have hread : Node.read (d + 1) ('[' :: t) = .list ('[' :: t) ns (.ok after) := by
    rw [Node.read, skipBlank_cons rfl]
    simp only [h]
  rw [hread]
  exact ⟨.list hns, rfl⟩

theorem read_list_of_spells {d : Nat} (hvalue : Reads (Node.read d) d) {vs : List Value} {t : Rest}
    (h : Spells (.list vs) t) (hd : (Value.list vs).depth ≤ d + 1) (rest : Rest) :
    (Node.read (d + 1) (t ++ rest)).Gives (.list vs) rest := by
  rw [depth, Nat.add_le_add_iff_right, depthItems_le_iff] at hd
  cases h with
  | @emptyList w hw =>
    have hread : Node.readList (Node.read d) (w ++ ']' :: rest) = ([], .ok rest) := by
      rw [Node.readList, skipBlank_append_cons hw rfl]
      rfl
    simpa using read_list hread .nil
  | @list v vs w t t' hw hv hvs =>
    obtain ⟨hdv, hdvs⟩ := List.forall_mem_cons.mp hd
    obtain ⟨hholds, hafter⟩ := hvalue hdv blank_nil hv (t' ++ rest)
    have hfuel : t'.length ≤ (t' ++ rest).length + 1 := by
      simp
      omega
    obtain ⟨ns, hread, hns⟩ := readItems_of_chain hvalue hvs hdvs rest hfuel
    obtain ⟨c, t'', rfl, hblank, hclose⟩ := hv.begins
    have hfirst := skipBlank_append_cons hw hblank (t'' ++ (t' ++ rest))
    have hall := read_list (readList_first hfirst hclose hafter hread) (.cons hholds hns)
    simpa using hall

theorem read_object {d : Nat} {t after : Rest} {ns : List (Member Node)}
    {ms : List (String × Value)} (h : Node.readObject (Node.read d) t = (ns, .ok after))
    (hns : List.Forall₂ HoldsMember ns ms) :
    (Node.read (d + 1) ('\x7b' :: t)).Gives (.object ms) after := by
  have hread : Node.read (d + 1) ('\x7b' :: t) = .object ('\x7b' :: t) ns (.ok after) := by
    rw [Node.read, skipBlank_cons rfl]
    simp only [h]
  rw [hread]
  exact ⟨.object hns, rfl⟩

theorem read_object_of_spells {d : Nat} (hvalue : Reads (Node.read d) d)
    {ms : List (String × Value)} {t : Rest} (h : Spells (.object ms) t)
    (hd : (Value.object ms).depth ≤ d + 1) (rest : Rest) :
    (Node.read (d + 1) (t ++ rest)).Gives (.object ms) rest := by
  rw [depth, Nat.add_le_add_iff_right, depthMembers_le_iff] at hd
  cases h with
  | @emptyObject w hw =>
    have hread : Node.readObject (Node.read d) (w ++ '\x7d' :: rest) = ([], .ok rest) := by
      rw [Node.readObject, skipBlank_append_cons hw rfl]
      rfl
    simpa using read_object hread .nil
  | @object m ms w t t' hw hm hms =>
    obtain ⟨hdm, hdms⟩ := List.forall_mem_cons.mp hd
    obtain ⟨t, rfl⟩ := hm.begins
    obtain ⟨afterKey, hkey, hholds, hafter⟩ := readMember_of_spells hvalue hm hdm (t' ++ rest)
    have hfuel : t'.length ≤ 2 * ('"' :: (t ++ (t' ++ rest))).length := by
      simp
      omega
    obtain ⟨ns, hread, hns⟩ := readMoreMembers_of_chain hvalue hms hdms rest hfuel
    have hfirst := skipBlank_append_cons hw (c := '"') rfl (t ++ (t' ++ rest))
    have hobject := (readObject_first hfirst).trans (readMembers_member hkey hafter hread)
    simpa using read_object hobject (.cons (.member hholds) hns)

/-- **Reading.** -/
theorem reads_read (d : Nat) : Reads (Node.read d) d := by
  induction d with
  | zero =>
    intro v w t hd hw h rest
    rw [read_skipBlank hw]
    cases v with
    | null =>
      cases h
      exact read_null 0 rest
    | text s =>
      cases h
      exact read_text 0 s rest
    | list vs => simp [depth] at hd
    | object ms => simp [depth] at hd
  | succ d ih =>
    intro v w t hd hw h rest
    rw [read_skipBlank hw]
    cases v with
    | null =>
      cases h
      exact read_null (d + 1) rest
    | text s =>
      cases h
      exact read_text (d + 1) s rest
    | list vs => exact read_list_of_spells ih h hd rest
    | object ms => exact read_object_of_spells ih h hd rest

end Lineup.Json
