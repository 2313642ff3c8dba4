import Lineup.Roster.Label
import Lineup.Proofs.Roster.Run
import Lineup.Proofs.Text.Splitting

/-!
Fingerprints tell rosters apart. A fingerprint is a sequence of named fields in
brackets, which can be read in one way only as long as no value closes a bracket
itself. A label can be split into name and fingerprint whatever the name is, as
long as the fingerprint has no square bracket in it.
-/

namespace Lineup

open Browser Text

/-! ## Fields in brackets -/

/-- A name and a value. -/
abbrev Field := String × String

namespace Field

def text (f : Field) : List Char := '(' :: (f.1.toList ++ '=' :: (f.2.toList ++ [')']))

def texts (fs : List Field) : List Char := fs.flatMap text

/-- A field whose name and value can be told apart, and whose value has an end. -/
structure Readable (f : Field) : Prop where
  name : '=' ∉ f.1.toList
  value : ')' ∉ f.2.toList

theorem text_append_inj {f f' : Field} (hf : Readable f) (hf' : Readable f') {z z' : List Char}
    (h : text f ++ z = text f' ++ z') : f = f' ∧ z = z' := by
  have hparts : f.1.toList ++ '=' :: (f.2.toList ++ ')' :: z) =
      f'.1.toList ++ '=' :: (f'.2.toList ++ ')' :: z') := by
    simpa [text] using h
  obtain ⟨hname, hrest⟩ := split_at_first hf.name hf'.name hparts
  obtain ⟨hvalue, hz⟩ := split_at_first hf.value hf'.value hrest
  exact ⟨Prod.ext (String.toList_inj.mp hname) (String.toList_inj.mp hvalue), hz⟩

/-- Fields end where no further bracket is opened. -/
theorem texts_append_inj {fs fs' : List Field} (hfs : ∀ f ∈ fs, Readable f)
    (hfs' : ∀ f ∈ fs', Readable f) {z z' : List Char} (hz : z.head? ≠ some '(')
    (hz' : z'.head? ≠ some '(') (h : texts fs ++ z = texts fs' ++ z') : fs = fs' ∧ z = z' := by
  induction fs generalizing fs' with
  | nil =>
    cases fs' with
    | nil => exact ⟨rfl, h⟩
    | cons f' fs' =>
      refine absurd ?_ hz
      rw [show z = texts (f' :: fs') ++ z' from h]
      rfl
  | cons f fs ih =>
    cases fs' with
    | nil =>
      refine absurd ?_ hz'
      rw [← show texts (f :: fs) ++ z = z' from h]
      rfl
    | cons f' fs' =>
      obtain ⟨hf, hmore⟩ := List.forall_mem_cons.mp hfs
      obtain ⟨hf', hmore'⟩ := List.forall_mem_cons.mp hfs'
      have hsplit : text f ++ (texts fs ++ z) = text f' ++ (texts fs' ++ z') := by
        simpa [texts] using h
      obtain ⟨rfl, hrest⟩ := text_append_inj hf hf' hsplit
      obtain ⟨rfl, htail⟩ := ih hmore hmore' hrest
      exact ⟨rfl, htail⟩

end Field

/-! ## What a fingerprint shows -/

namespace Browser

structure Traits where
  id : String
  kind : Kind
  scope : Scope
  version : Option String
  platform : Option Platform
deriving DecidableEq

def Instance.traits (b : Instance) : Traits := ⟨b.id, b.kind, b.scope, b.version, b.platform⟩

theorem Kind.word_injective : Function.Injective Kind.word := by
  intro k k' h
  cases k <;> cases k' <;> first | rfl | exact absurd h (by decide)

theorem Scope.word_injective : Function.Injective Scope.word := by
  intro s s' h
  cases s <;> cases s' <;> first | rfl | exact absurd h (by decide)

theorem Platform.word_injective : Function.Injective Platform.word := by
  intro p p' h
  cases p <;> cases p' <;> first | rfl | exact absurd h (by decide)

theorem Kind.isAlphanum_word (k : Kind) : ∀ c ∈ k.word.toList, c.isAlphanum = true :=
  List.all_eq_true.mp (by cases k <;> decide)

theorem Scope.isAlphanum_word (s : Scope) : ∀ c ∈ s.word.toList, c.isAlphanum = true :=
  List.all_eq_true.mp (by cases s <;> decide)

theorem Platform.isAlphanum_word (p : Platform) : ∀ c ∈ p.word.toList, c.isAlphanum = true :=
  List.all_eq_true.mp (by cases p <;> decide)

namespace Traits

def fields (t : Traits) : List Field :=
  [("id", t.id), ("browserType", t.kind.word), ("scope", t.scope.word)]
    ++ t.version.toList.map (Prod.mk "browserVersion")
    ++ t.platform.toList.map (fun p => ("platform", p.word))

theorem fields_injective : Function.Injective fields := by
  rintro ⟨id, k, s, v, p⟩ ⟨id', k', s', v', p'⟩ h
  simp only [fields, List.cons_append, List.nil_append, List.cons.injEq, Prod.mk.injEq,
    true_and] at h
  obtain ⟨rfl, hk, hs, hopt⟩ := h
  obtain rfl := Kind.word_injective hk
  obtain rfl := Scope.word_injective hs
  have hparts : v = v' ∧ p.map Platform.word = p'.map Platform.word := by
    cases v <;> cases v' <;> cases p <;> cases p' <;> simp_all
  obtain ⟨rfl, hp⟩ := hparts
  obtain rfl := Option.map_injective Platform.word_injective hp
  rfl

/-- No text of its own has this character in it. -/
def Avoids (c : Char) (t : Traits) : Prop :=
  c ∉ t.id.toList ∧ ∀ v ∈ t.version, c ∉ v.toList

/-- What holds of texts of letters and digits, of the identifier and of the version, holds of the
value of every field. -/
theorem forall_fields {t : Traits} {P : Field → Prop} (hid : P ("id", t.id))
    (hwords : ∀ name ∈ ["browserType", "scope", "platform"], ∀ value : String,
      (∀ c ∈ value.toList, c.isAlphanum = true) → P (name, value))
    (hversion : ∀ v ∈ t.version, P ("browserVersion", v)) : ∀ f ∈ t.fields, P f := by
  intro f hf
  simp only [fields, List.mem_append, List.mem_cons, List.not_mem_nil, or_false, List.mem_map,
    Option.mem_toList] at hf
  rcases hf with ((rfl | rfl | rfl) | ⟨v, hv, rfl⟩) | ⟨p, -, rfl⟩
  · exact hid
  · exact hwords _ (by simp) _ t.kind.isAlphanum_word
  · exact hwords _ (by simp) _ t.scope.isAlphanum_word
  · exact hversion v hv
  · exact hwords _ (by simp) _ p.isAlphanum_word

theorem not_mem_of_isAlphanum {c : Char} {s : String} (hc : c.isAlphanum = false)
    (hs : ∀ d ∈ s.toList, d.isAlphanum = true) : c ∉ s.toList := by
  intro hm
  rw [hs c hm] at hc
  cases hc

theorem readable_fields {t : Traits} (h : t.Avoids ')') : ∀ f ∈ t.fields, f.Readable := by
  refine forall_fields ⟨(by decide : '=' ∉ "id".toList), h.1⟩
    (fun name hname value hvalue => ⟨?_, ?_⟩)
    fun v hv => ⟨(by decide : '=' ∉ "browserVersion".toList), h.2 v hv⟩
  · change '=' ∉ name.toList
    clear hvalue
    revert name
    decide
  · exact not_mem_of_isAlphanum (by decide) hvalue

theorem square_not_mem_texts {t : Traits} (h : t.Avoids '[') : '[' ∉ Field.texts t.fields := by
  rw [Field.texts, List.mem_flatMap]
  rintro ⟨f, hf, hm⟩
  revert hm
  refine forall_fields (P := fun f => '[' ∉ f.text) ?_ (fun name hname value hvalue => ?_)
    (fun v hv => ?_) f hf
  · simp [Field.text, h.1]
  · have hn : '[' ∉ name.toList := by
      revert name
      decide
    simp [Field.text, hn, not_mem_of_isAlphanum (c := '[') (by decide) hvalue]
  · simp [Field.text, h.2 v hv]

end Traits

theorem Instance.toList_fingerprint (b : Instance) :
    b.fingerprint.toList = Field.texts b.traits.fields := by
  cases hv : b.version <;> cases hp : b.platform <;>
    simp [fingerprint, part, hv, hp, traits, Traits.fields, Field.texts, Field.text]

end Browser

/-! ## Fingerprints and labels of rosters -/

namespace Roster

/-- What the fingerprint shows of each browser, in the order of identifiers. -/
def traits (r : Roster) : List Traits := r.toList.map Instance.traits

/-- No identifier and no version has this character in it. -/
def Avoids (c : Char) (r : Roster) : Prop :=
  ∀ b ∈ r.toList, c ∉ b.id.toList ∧ ∀ v ∈ b.version, c ∉ v.toList

instance (c : Char) (r : Roster) : Decidable (r.Avoids c) :=
  inferInstanceAs (Decidable (∀ b ∈ r.toList, c ∉ b.id.toList ∧ ∀ v ∈ b.version, c ∉ v.toList))

theorem Avoids.traits {c : Char} {r : Roster} (h : r.Avoids c) : ∀ t ∈ r.traits, t.Avoids c := by
  intro t ht
  obtain ⟨b, hb, rfl⟩ := List.mem_map.mp ht
  exact h b hb

/-- The fields of several browsers, with a semicolon before those of each. -/
def listed (ts : List Traits) : List Char := ts.flatMap fun t => ';' :: Field.texts t.fields

theorem intercalate_eq_listed (t : Traits) (ts : List Traits) :
    [';'].intercalate ((t :: ts).map fun t => Field.texts t.fields) =
      Field.texts t.fields ++ listed ts := by
  rw [List.map_cons, intercalate_cons, List.flatMap_map, listed]

theorem toList_fingerprint (r : Roster) :
    r.fingerprint.toList = [';'].intercalate (r.traits.map fun t => Field.texts t.fields) := by
  rw [fingerprint, String.toList_intercalate, List.map_map, traits, List.map_map]
  congr 1
  exact List.map_congr_left fun b _ => b.toList_fingerprint

theorem head?_listed (ts : List Traits) : (listed ts).head? ≠ some '(' := by
  cases ts <;> simp [listed]

theorem listed_inj {ts ts' : List Traits} (hts : ∀ t ∈ ts, t.Avoids ')')
    (hts' : ∀ t ∈ ts', t.Avoids ')') (h : listed ts = listed ts') : ts = ts' := by
  induction ts generalizing ts' with
  | nil =>
    cases ts' with
    | nil => rfl
    | cons t' ts' => cases h
  | cons t ts ih =>
    cases ts' with
    | nil => cases h
    | cons t' ts' =>
      obtain ⟨ht, hmore⟩ := List.forall_mem_cons.mp hts
      obtain ⟨ht', hmore'⟩ := List.forall_mem_cons.mp hts'
      obtain ⟨hfields, hrest⟩ := Field.texts_append_inj (Traits.readable_fields ht)
        (Traits.readable_fields ht') (head?_listed ts) (head?_listed ts') (List.cons.inj h).2
      obtain rfl := Traits.fields_injective hfields
      rw [ih hmore hmore' hrest]

theorem fingerprint_eq_iff {r r' : Roster} (h : r.Avoids ')') (h' : r'.Avoids ')') :
    r.fingerprint = r'.fingerprint ↔ r.traits = r'.traits := by
  rw [← String.toList_inj, toList_fingerprint, toList_fingerprint]
  refine ⟨fun heq => ?_, fun heq => by rw [heq]⟩
  have hts := h.traits
  have hts' := h'.traits
  -- A semicolon in front of a fingerprint that is not empty makes its first browser like the others.
  cases hr : r.traits with
  | nil =>
    cases hr' : r'.traits with
    | nil => rfl
    | cons t' ts' =>
      rw [hr, hr', intercalate_eq_listed] at heq
      cases heq
  | cons t ts =>
    cases hr' : r'.traits with
    | nil =>
      rw [hr, hr', intercalate_eq_listed] at heq
      cases heq
    | cons t' ts' =>
      rw [hr, hr', intercalate_eq_listed, intercalate_eq_listed] at heq
      rw [hr] at hts
      rw [hr'] at hts'
      exact listed_inj hts hts' (congrArg (';' :: ·) heq)

theorem square_not_mem_fingerprint {r : Roster} (h : r.Avoids '[') :
    '[' ∉ r.fingerprint.toList := by
  have hlisted : ∀ ts : List Traits, (∀ t ∈ ts, t.Avoids '[') → '[' ∉ listed ts := by
    intro ts hts hm
    obtain ⟨t, ht, hm⟩ := List.mem_flatMap.mp hm
    rcases List.mem_cons.mp hm with hc | hm
    · cases hc
    · exact Traits.square_not_mem_texts (hts t ht) hm
  have hts := h.traits
  rw [toList_fingerprint]
  cases hr : r.traits with
  | nil => simp
  | cons t ts =>
    rw [hr] at hts
    rw [intercalate_eq_listed]
    intro hm
    exact hlisted (t :: ts) hts (List.mem_cons_of_mem _ hm)

/-- What stands in a label in front of the fingerprint and its bracket. -/
def heading : Option String → List Char
  | some name => name.toList ++ [' ']
  | none => []

theorem heading_injective : Function.Injective heading := by
  intro name name' h
  cases name with
  | none =>
    cases name' with
    | none => rfl
    | some s' => simp [heading] at h
  | some s =>
    cases name' with
    | none => simp [heading] at h
    | some s' => exact congrArg some (String.toList_inj.mp (List.append_cancel_right h))

theorem toList_label (r : Roster) :
    r.label.toList = heading r.name ++ '[' :: (r.fingerprint.toList ++ [']']) := by
  cases hname : r.name <;> simp [label, heading, hname]

theorem label_eq_iff {r r' : Roster} (h : r.Avoids '[') (h' : r'.Avoids '[') :
    r.label = r'.label ↔ r.fingerprint = r'.fingerprint ∧ r.name = r'.name := by
  rw [← String.toList_inj, toList_label, toList_label]
  constructor
  · intro heq
    have hf : '[' ∉ r.fingerprint.toList ++ [']'] := by
      simpa using square_not_mem_fingerprint h
    have hf' : '[' ∉ r'.fingerprint.toList ++ [']'] := by
      simpa using square_not_mem_fingerprint h'
    obtain ⟨hname, hprint⟩ := split_at_last hf hf' heq
    exact ⟨String.toList_inj.mp (List.append_cancel_right hprint), heading_injective hname⟩
  · rintro ⟨hprint, hname⟩
    rw [hprint, hname]

/-- **Fingerprints and labels.** -/
theorem fingerprint_tells_apart {r r' : Roster} (h : r.Avoids ')') (h' : r'.Avoids ')') :
    (r.fingerprint = r'.fingerprint ↔ r.traits = r'.traits) ∧
    (r.Avoids '[' → r'.Avoids '[' →
      (r.label = r'.label ↔ r.traits = r'.traits ∧ r.name = r'.name)) := by
  refine ⟨fingerprint_eq_iff h h', fun hs hs' => ?_⟩
  rw [label_eq_iff hs hs', fingerprint_eq_iff h h']

/-- Two browsers under a name that looks like the beginning of a label. -/
def grid : Roster := (fresh (some "a [(id=x)]")).run
  [("x;y", .ofSettings [.scope .remote, .version "47", .platform .linux]), ("", .ofSettings [])]

/-- The same browsers without a name, except that a version is missing. -/
def unnamedGrid : Roster := (fresh none).run
  [("", .ofSettings []), ("x;y", .ofSettings [.scope .remote, .platform .linux])]

theorem fingerprint_tells_apart_grids :
    grid.Avoids ')' ∧ unnamedGrid.Avoids ')' ∧ grid.Avoids '[' ∧ unnamedGrid.Avoids '[' ∧
    (grid.fingerprint = unnamedGrid.fingerprint ↔ grid.traits = unnamedGrid.traits) ∧
    (grid.label = unnamedGrid.label ↔
      grid.traits = unnamedGrid.traits ∧ grid.name = unnamedGrid.name) := by
  have h : grid.Avoids ')' := by decide +kernel
  have h' : unnamedGrid.Avoids ')' := by decide +kernel
  have hs : grid.Avoids '[' := by decide +kernel
  have hs' : unnamedGrid.Avoids '[' := by decide +kernel
  obtain ⟨hprint, hlabel⟩ := fingerprint_tells_apart h h'
  exact ⟨h, h', hs, hs', hprint, hlabel hs hs'⟩

-- An identifier that closes a bracket can pass for two browsers.
example :
    ((fresh none).run [("a)(browserType=CHROME)(scope=LOCAL);(id=b", .ofSettings [])]).fingerprint =
    ((fresh none).run [("a", .ofSettings []), ("b", .ofSettings [])]).fingerprint := by
  decide +kernel

end Roster
end Lineup
