import Mathlib
import Lineup.Path
import Lineup.Proofs.Text.Splitting

/-!
The end of a path. Behind the last component only slashes and single dots can
stand, so every path has exactly one. What a path says about its extension
depends on nothing else, and it may be joined to a directory or be continued by
slashes without a change.
-/

namespace Lineup

/-! ## Letters in either case -/

namespace Text

/-- The same text, but for the case of its ASCII letters. -/
def SameButCase (x y : List Char) : Prop := x.map Char.toLower = y.map Char.toLower

instance (x y : List Char) : Decidable (SameButCase x y) :=
  inferInstanceAs (Decidable (x.map Char.toLower = y.map Char.toLower))

theorem toLower_eq_of_isAlpha_eq_false {c : Char} (h : c.isAlpha = false) : c.toLower = c := by
  refine Char.toLower_eq_of_not_isUpper fun hupper => ?_
  simp [Char.isAlpha, hupper] at h

theorem toLower_eq_iff {c d : Char} (hd : d.isAlpha = false) : c.toLower = d ↔ c = d := by
  constructor
  · rintro rfl
    rw [Char.isAlpha_toLower_eq_isAlpha] at hd
    exact (toLower_eq_of_isAlpha_eq_false hd).symm
  · rintro rfl
    exact toLower_eq_of_isAlpha_eq_false hd

theorem mem_map_toLower_iff {d : Char} (hd : d.isAlpha = false) {x : List Char} :
    d ∈ x.map Char.toLower ↔ d ∈ x := by
  simp [toLower_eq_iff hd]

theorem map_toLower_eq_iff {x y : List Char} (hy : ∀ d ∈ y, d.isAlpha = false) :
    x.map Char.toLower = y ↔ x = y := by
  induction x generalizing y with
  | nil => simp
  | cons c x ih =>
    cases y with
    | nil => simp
    | cons d y =>
      obtain ⟨hd, hy⟩ := List.forall_mem_cons.mp hy
      simp [toLower_eq_iff hd, ih hy]

theorem sameButCase_map_toLower (x : List Char) : SameButCase (x.map Char.toLower) x := by
  simp [SameButCase]

end Text

namespace Path

open Text

/-! ## The last component -/

/-- What may stand behind the last component. -/
inductive Trailing : List Char → Prop
  | nothing : Trailing []
  | slash {rest : List Char} : Trailing rest → Trailing ('/' :: rest)
  | dot {rest : List Char} : Trailing rest → Trailing ('/' :: '.' :: rest)

/-- The last component of a path, once the slashes and single dots behind it are taken away. It can
be empty or a single dot only where nothing stands before it. -/
inductive EndsIn (p : Path) (c : List Char) : Prop
  | alone {rest : List Char} : p.text.toList = c ++ rest → '/' ∉ c → Trailing rest → EndsIn p c
  | behind {before rest : List Char} : p.text.toList = before ++ '/' :: (c ++ rest) → '/' ∉ c →
      c ≠ [] → c ≠ ['.'] → Trailing rest → EndsIn p c

variable {p q : Path} {c x y : List Char}

theorem Trailing.append (hx : Trailing x) (hy : Trailing y) : Trailing (x ++ y) := by
  induction hx with
  | nothing => exact hy
  | slash _ ih => exact ih.slash
  | dot _ ih => exact ih.dot

theorem Trailing.map_toLower (h : Trailing x) : Trailing (x.map Char.toLower) := by
  induction h with
  | nothing => exact .nothing
  | slash _ ih => exact ih.slash
  | dot _ ih => exact ih.dot

/-- A character in front belongs to the last component or stands before it. A slash before a
single dot takes the dot from it. -/
theorem EndsIn.exists_cons (h : p.EndsIn c) {a : Char} (hq : q.text.toList = a :: p.text.toList) :
    ∃ c', q.EndsIn c' := by
  cases h with
  | @alone rest htext hc hrest =>
    rw [htext] at hq
    by_cases ha : a = '/'
    · subst ha
      by_cases hempty : c = []
      · subst hempty
        exact ⟨[], .alone hq List.not_mem_nil hrest.slash⟩
      by_cases hdot : c = ['.']
      · subst hdot
        exact ⟨[], .alone hq List.not_mem_nil hrest.dot⟩
      have hfront : q.text.toList = [] ++ '/' :: (c ++ rest) := hq
      exact ⟨c, .behind hfront hc hempty hdot hrest⟩
    · exact ⟨a :: c, .alone hq (by simp [hc, Ne.symm ha]) hrest⟩
  | @behind before rest htext hc hempty hdot hrest =>
    have hfront : q.text.toList = (a :: before) ++ '/' :: (c ++ rest) := by
      rw [hq, htext, List.cons_append]
    exact ⟨c, .behind hfront hc hempty hdot hrest⟩

theorem exists_endsIn (p : Path) : ∃ c, p.EndsIn c := by
  generalize htext : p.text.toList = text
  induction text generalizing p with
  | nil => exact ⟨[], .alone htext List.not_mem_nil .nothing⟩
  | cons a text ih =>
    obtain ⟨c, hc⟩ := ih ⟨String.ofList text⟩ String.toList_ofList
    exact hc.exists_cons (htext.trans (by rw [String.toList_ofList]))

/-- The parts behind the last component are the same ones whatever stands before it. -/
theorem Trailing.splitOn (h : Trailing x) :
    ∃ after : List (List Char), (∀ part ∈ after, part = [] ∨ part = ['.']) ∧
      ∀ y, (y ++ x).splitOn '/' = y.splitOn '/' ++ after := by
  induction h with
  | nothing => exact ⟨[], by simp⟩
  | @slash rest _ ih =>
    obtain ⟨after, hafter, hsplit⟩ := ih
    refine ⟨[] :: after, by simpa using hafter, fun y => ?_⟩
    rw [List.splitOn_append_cons_self, ← List.nil_append rest, hsplit]
    rfl
  | @dot rest _ ih =>
    obtain ⟨after, hafter, hsplit⟩ := ih
    refine ⟨['.'] :: after, by simpa using hafter, fun y => ?_⟩
    rw [List.splitOn_append_cons_self, ← List.singleton_append, hsplit]
    rfl

/-- The parts of a path around its last component. -/
theorem EndsIn.parts (h : p.EndsIn c) : ∃ before after : List (List Char),
    p.parts = before ++ c :: after ∧ (∀ part ∈ after, part = [] ∨ part = ['.']) ∧
    (c = [] ∨ c = ['.'] → before = []) := by
  cases h with
  | alone htext hc hrest =>
    obtain ⟨after, hafter, hsplit⟩ := hrest.splitOn
    have hparts : p.parts = [] ++ c :: after := by
      rw [Path.parts, htext, hsplit, List.splitOn_eq_singleton hc]
      rfl
    exact ⟨_, _, hparts, hafter, fun _ => rfl⟩
  | @behind front rest htext hc hempty hdot hrest =>
    obtain ⟨after, hafter, hsplit⟩ := hrest.splitOn
    have hparts : p.parts = front.splitOn '/' ++ c :: after := by
      rw [Path.parts, htext, List.splitOn_append_cons_self, hsplit, List.splitOn_eq_singleton hc]
      rfl
    exact ⟨_, _, hparts, hafter, fun h => (h.elim hempty hdot).elim⟩

/-- A single dot is a component of its own where it is the whole path, but it names nothing. -/
theorem EndsIn.lastPart_eq (h : p.EndsIn c) : p.lastPart = if c = ['.'] then [] else c := by
  obtain ⟨before, after, hparts, hafter, hbefore⟩ := h.parts
  have hskip : after.reverse.find? (fun part => part ≠ [] ∧ part ≠ ['.']) = none := by
    rw [List.find?_eq_none]
    intro part hpart
    rcases hafter part (List.mem_reverse.mp hpart) with rfl | rfl
    · simp
    · simp
  -- The search begins at the end, and what it skips first is what stands behind the component.
  rw [lastPart, hparts, List.reverse_append, List.reverse_cons, List.append_assoc,
    List.find?_append, hskip, Option.none_or]
  by_cases hc : c = [] ∨ c = ['.']
  · rw [hbefore hc]
    rcases hc with rfl | rfl
    · simp
    · simp
  · obtain ⟨hempty, hdot⟩ := not_or.mp hc
    simp [hempty, hdot]

/-- A path that is a single dot begins with it, and one without any component with a slash. -/
theorem EndsIn.not_endsIn_nil (h : p.EndsIn ['.']) : ¬ p.EndsIn [] := by
  rintro (⟨htext', -, hrest'⟩ | ⟨-, -, hempty, -, -⟩)
  · cases h with
    | alone htext hc hrest =>
      rw [htext', List.nil_append] at htext
      rw [htext] at hrest'
      cases hrest'
    | behind _ _ _ hdot _ => exact hdot rfl
  · exact hempty rfl

theorem EndsIn.unique (h : p.EndsIn x) (h' : p.EndsIn y) : x = y := by
  have heq := h.lastPart_eq.symm.trans h'.lastPart_eq
  by_cases hx : x = ['.']
  · by_cases hy : y = ['.']
    · rw [hx, hy]
    · rw [if_pos hx, if_neg hy] at heq
      subst hx heq
      exact absurd h' h.not_endsIn_nil
  · by_cases hy : y = ['.']
    · rw [if_neg hx, if_pos hy] at heq
      subst hy heq
      exact absurd h h'.not_endsIn_nil
    · rwa [if_neg hx, if_neg hy] at heq

theorem existsUnique_endsIn (p : Path) : ∃! c, p.EndsIn c := by
  obtain ⟨c, hc⟩ := p.exists_endsIn
  exact ⟨c, hc, fun c' hc' => hc'.unique hc⟩

/-! ## Other ways to write a path -/

theorem EndsIn.append_trailing (h : p.EndsIn c) (hx : Trailing x)
    (hq : q.text.toList = p.text.toList ++ x) : q.EndsIn c := by
  cases h with
  | alone htext hc hrest => exact .alone (by simp [hq, htext]) hc (hrest.append hx)
  | @behind before rest htext hc hempty hdot hrest =>
    have hbehind : q.text.toList = before ++ '/' :: (c ++ (rest ++ x)) := by
      simp [hq, htext]
    exact .behind hbehind hc hempty hdot (hrest.append hx)

theorem EndsIn.behind_slash (h : p.EndsIn c) (hempty : c ≠ []) (hdot : c ≠ ['.'])
    (hq : q.text.toList = x ++ '/' :: p.text.toList) : q.EndsIn c := by
  cases h with
  | alone htext hc hrest => exact .behind (by rw [hq, htext]) hc hempty hdot hrest
  | @behind before rest htext hc _ _ hrest =>
    have hfront : q.text.toList = (x ++ '/' :: before) ++ '/' :: (c ++ rest) := by
      simp [hq, htext]
    exact .behind hfront hc hempty hdot hrest

/-- A name is the last component behind any directory. -/
theorem EndsIn.join (h : p.EndsIn c) (hempty : c ≠ []) (hdot : c ≠ ['.']) (dir : Path) :
    (dir.join p).EndsIn c := by
  rw [Path.join]
  split
  · exact h
  split
  · rename_i hslash
    obtain ⟨x, hx⟩ := List.getLast?_eq_some_iff.mp hslash
    exact h.behind_slash (x := x) hempty hdot (by simp [hx])
  · exact h.behind_slash (x := dir.text.toList) hempty hdot (by simp)

/-- In lower case, the last component is the same one in lower case: no slash and no dot is a
letter. -/
theorem EndsIn.map_toLower (h : p.EndsIn c) (hq : q.text.toList = p.text.toList.map Char.toLower) :
    q.EndsIn (c.map Char.toLower) := by
  have hslash : ∀ {x : List Char}, '/' ∉ x → '/' ∉ x.map Char.toLower := fun hx =>
    (mem_map_toLower_iff rfl).not.mpr hx
  cases h with
  | alone htext hc hrest =>
    exact .alone (by rw [hq, htext, List.map_append]) (hslash hc) hrest.map_toLower
  | @behind before rest htext hc hempty hdot hrest =>
    have htext' : q.text.toList = before.map Char.toLower ++
        '/' :: (c.map Char.toLower ++ rest.map Char.toLower) := by
      rw [hq, htext, List.map_append, List.map_cons, List.map_append]
      rfl
    exact .behind htext' (hslash hc) (List.map_eq_nil_iff.not.mpr hempty)
      ((map_toLower_eq_iff (by simp)).not.mpr hdot) hrest.map_toLower

/-! ## The extension -/

/-- A name `stem.ext`, split at its last dot. Two dots are no such name, and neither is one that
begins with its only dot. -/
def HasExtension (c ext : List Char) : Prop :=
  c ≠ ['.', '.'] ∧ '.' ∉ ext ∧ ∃ stem, stem ≠ [] ∧ c = stem ++ '.' :: ext

theorem not_hasExtension_of_dotless (h : '.' ∉ c) : ¬ HasExtension c x := by
  rintro ⟨-, -, stem, -, rfl⟩
  simp at h

theorem not_hasExtension_of_hidden (h : '.' ∉ c) : ¬ HasExtension ('.' :: c) x := by
  rintro ⟨-, hx, stem, hstem, hsplit⟩
  exact hstem (split_at_last (x := []) h hx hsplit).1.symm

theorem forall_mem_reverse_ne_dot (h : '.' ∉ x) : ∀ a ∈ x.reverse, decide (a ≠ '.') = true := by
  intro a ha
  rw [decide_eq_true_iff]
  rintro rfl
  exact h (List.mem_reverse.mp ha)

theorem extension?_of_dot_not_mem (h : '.' ∉ p.lastPart) : p.extension? = none := by
  have hstem : p.lastPart.reverse.dropWhile (· ≠ '.') = [] :=
    List.dropWhile_eq_nil_iff.mpr (forall_mem_reverse_ne_dot h)
  simp only [extension?, hstem]
  simp

theorem extension?_of_split {stem ext : List Char} (h : p.lastPart = stem ++ '.' :: ext)
    (hext : '.' ∉ ext) : p.extension? =
      if p.lastPart = ['.', '.'] ∨ stem = [] then none else some (String.ofList ext) := by
  have hreverse : p.lastPart.reverse = ext.reverse ++ '.' :: stem.reverse := by
    simp [h]
  have hafter := forall_mem_reverse_ne_dot hext
  simp only [extension?, hreverse]
  rw [List.takeWhile_append_of_pos hafter, List.dropWhile_append_of_pos hafter]
  by_cases hparent : p.lastPart = ['.', '.']
  · simp [hparent]
  · by_cases hstem : stem = []
    · simp [hstem]
    · simp [hparent, hstem]

theorem extension?_eq_some_iff_lastPart {e : String} :
    p.extension? = some e ↔ HasExtension p.lastPart e.toList := by
  by_cases hdot : '.' ∈ p.lastPart
  · obtain ⟨stem, ext, hsplit, hext⟩ := exists_split_at_last hdot
    rw [extension?_of_split hsplit hext, Option.ite_none_left_eq_some, not_or]
    constructor
    · rintro ⟨⟨hparent, hstem⟩, he⟩
      obtain rfl := Option.some.inj he
      rw [String.toList_ofList]
      exact ⟨hparent, hext, stem, hstem, hsplit⟩
    · rintro ⟨hparent, he, stem', hstem', hsplit'⟩
      obtain ⟨rfl, rfl⟩ := split_at_last hext he (hsplit.symm.trans hsplit')
      exact ⟨⟨hparent, hstem'⟩, by rw [String.ofList_toList]⟩
  · rw [extension?_of_dot_not_mem hdot]
    exact iff_of_false nofun (not_hasExtension_of_dotless hdot)

/-- **The extension.** It is read off the last component. -/
theorem EndsIn.extension?_eq_some_iff (h : p.EndsIn c) {e : String} :
    p.extension? = some e ↔ HasExtension c e.toList := by
  rw [extension?_eq_some_iff_lastPart, h.lastPart_eq]
  split
  · rename_i hdot
    subst hdot
    exact iff_of_false (not_hasExtension_of_dotless List.not_mem_nil)
      (not_hasExtension_of_hidden List.not_mem_nil)
  · rfl

theorem hasExtension_map_toLower_iff :
    HasExtension (c.map Char.toLower) x ↔ ∃ ext, HasExtension c ext ∧ ext.map Char.toLower = x := by
  have hparent : c.map Char.toLower = ['.', '.'] ↔ c = ['.', '.'] := map_toLower_eq_iff (by simp)
  have hdot : ∀ {y : List Char}, '.' ∈ y.map Char.toLower ↔ '.' ∈ y := mem_map_toLower_iff rfl
  constructor
  · rintro ⟨hne, hx, stem, hstem, hsplit⟩
    -- The dot that splits the name in lower case is a dot of the name itself.
    obtain ⟨stem', tail, rfl, rfl, htail⟩ := List.map_eq_append_iff.mp hsplit
    obtain ⟨a, ext, rfl, ha, rfl⟩ := List.map_eq_cons_iff.mp htail
    obtain rfl := (toLower_eq_iff rfl).mp ha
    exact ⟨ext, ⟨hparent.not.mp hne, hdot.not.mp hx, stem', by simpa using hstem, rfl⟩, rfl⟩
  · rintro ⟨ext, ⟨hne, hext, stem, hstem, rfl⟩, rfl⟩
    refine ⟨hparent.not.mpr hne, hdot.not.mpr hext, stem.map Char.toLower, by simpa using hstem, ?_⟩
    rw [List.map_append, List.map_cons]
    rfl

end Path
end Lineup
