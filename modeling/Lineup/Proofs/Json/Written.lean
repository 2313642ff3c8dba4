import Lineup.Proofs.Json.Reading

/-!
Reading back what is written. The text that a value is spread over is read as a tree
that holds this value and no other one, and nothing of the text is left. A value can
always be printed, other than what has keys that are no texts.
-/

namespace Lineup.Json

namespace Holds

mutual

/-- A tree holds one value at most. -/
theorem unique : ∀ (v : Value) {v' : Value} {n : Node}, Holds n v → Holds n v' → v = v'
  | .null, _, _, .null, h' => by
    cases h'
    rfl
  | .text _, _, _, .text, h' => by
    cases h'
    rfl
  | .list vs, _, _, .list hs, h' => by
    cases h' with
    | list hs' => rw [uniqueItems vs hs hs']
  | .object ms, _, _, .object hs, h' => by
    cases h' with
    | object hs' => rw [uniqueMembers ms hs hs']

theorem uniqueItems : ∀ (vs : List Value) {vs' : List Value} {ns : List Node},
    List.Forall₂ Holds ns vs → List.Forall₂ Holds ns vs' → vs = vs'
  | [], _, _, .nil, h' => by
    cases h'
    rfl
  | v :: vs, _, _, .cons h hs, h' => by
    cases h' with
    | cons h₁ hs₁ => rw [unique v h h₁, uniqueItems vs hs hs₁]

theorem uniqueMembers : ∀ (ms : List (String × Value)) {ms' : List (String × Value)}
    {ns : List (Member Node)},
    List.Forall₂ HoldsMember ns ms → List.Forall₂ HoldsMember ns ms' → ms = ms'
  | [], _, _, .nil, h' => by
    cases h'
    rfl
  | (name, v) :: ms, _, _, .cons (.member h) hs, h' => by
    cases h' with
    | cons h₁ hs₁ =>
      cases h₁ with
      | member h₁ => rw [unique v h h₁, uniqueMembers ms hs hs₁]

end

end Holds

/-- The text holds this value and no other one, and nothing but blanks stands behind it. -/
structure ReadsAs (text : String) (v : Value) : Prop where
  close : closeText (ofText text) = .ok ()
  holds_iff : ∀ v', Holds (ofText text) v' ↔ v' = v

theorem readsAs_of_spells {text : String} {v : Value} {t w : Rest} (htext : text.toList = t ++ w)
    (hspells : Spells v t) (hw : Blank w) (hd : v.depth ≤ 127) : ReadsAs text v := by
  have hgives : (ofText text).Gives v w := by
    rw [ofText, htext]
    exact reads_read 127 hd blank_nil hspells w
  constructor
  case close =>
    have hblank : Node.skipBlank w = [] := by
      have hskip := skipBlank_append hw []
      rwa [List.append_nil] at hskip
    rw [closeText, hgives.after]
    simp only [bind, Except.bind, hblank]
  case holds_iff =>
    intro v'
    constructor
    · exact fun h => Holds.unique v' h hgives.holds
    · rintro rfl
      exact hgives.holds

/-- **Reading back.** -/
theorem readsAs_pretty {v : Value} (hd : v.depth ≤ 127) (level : Nat) :
    ReadsAs (v.pretty level ++ "\n") v := by
  have hend : Blank ['\n'] := fun c hc => by rw [List.mem_singleton.mp hc]; rfl
  exact readsAs_of_spells String.toList_append (Value.spells_pretty level v) hend hd

theorem ReadsAs.unique {text : String} {v v' : Value} (h : ReadsAs text v)
    (h' : ReadsAs text v') : v = v' :=
  (h'.holds_iff v).mp ((h.holds_iff v).mpr rfl)

/-! ## What is given to the printer -/

namespace Value

mutual

/-- A value is printed as it is. -/
theorem value_datum : (v : Value) → v.datum.value = .ok v
  | .null => by rw [datum, Datum.value]
  | .text s => by rw [datum, Datum.value]
  | .list items => by
    rw [datum, Datum.value, values_data items]
    rfl
  | .object members => by
    rw [datum, Datum.value, members_entries members]
    rfl

theorem values_data : (vs : List Value) → Datum.values (data vs) = .ok vs
  | [] => by rw [data, Datum.values]
  | v :: vs => by
    rw [data, Datum.values, value_datum v, values_data vs]
    rfl

theorem members_entries : (ms : List (String × Value)) → Datum.members (entries ms) = .ok ms
  | [] => by rw [entries, Datum.members]
  | (name, v) :: ms => by
    rw [entries, Datum.members, value_datum v, members_entries ms]
    rfl

end

theorem data_eq_map (vs : List Value) : data vs = vs.map datum := by
  induction vs with
  | nil => rw [data, List.map_nil]
  | cons v vs ih => rw [data, ih, List.map_cons]

theorem pretty_list_datum (vs : List Value) :
    (Datum.list (vs.map datum)).pretty = .ok ((list vs).pretty 0) := by
  have hvalue : (Datum.list (vs.map datum)).value = .ok (list vs) := by
    rw [← data_eq_map, ← datum, value_datum]
  rw [Datum.pretty, hvalue]
  rfl

end Value

end Lineup.Json
