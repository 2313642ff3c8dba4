import Lineup.Document.Record
import Lineup.Proofs.Steps

/-!
Properties that pass from the members of a record to the record. If each member,
read on its own, keeps a property of what is gathered, then so does reading the
record, whether it is written as a map or as a list. And if the members of one
record do to the image of what is gathered what those of another do to the
original, the records are read alike.
-/

namespace Lineup.Document

open Steps

variable {ν ε σ τ α β : Type}

namespace Record

/-- Every member keeps `P` when it is read. -/
def Keeps (r : Record ν ε σ) (P : σ → Prop) : Prop :=
  ∀ m ∈ r.members, ∀ v change, m.read v = .ok change → ∀ s, P s → P (change s)

theorem readEntries_keeps {r : Record ν ε σ} {P : σ → Prop} (h : r.Keeps P)
    {seen seen' : List String} {s s' : σ} {es : List (Entry ν ε)} (hs : P s)
    (hread : r.readEntries seen s es = .ok (seen', s')) : P s' := by
  induction es generalizing seen s with
  | nil =>
    cases hread
    exact hs
  | cons e rest ih =>
    rw [readEntries] at hread
    obtain ⟨name, -, hread⟩ := bind_eq_ok_iff.mp hread
    split at hread
    · split at hread
      · cases hread
      · exact ih hs hread
    · rename_i m hfind
      split at hread
      · cases hread
      · obtain ⟨change, hchange, hread⟩ := bind_eq_ok_iff.mp hread
        have hm : m ∈ r.members := List.mem_of_find?_eq_some hfind
        exact ih (h m hm e.value change hchange s hs) hread

theorem readNamed_keeps {r : Record ν ε σ} {P : σ → Prop} (h : r.Keeps P) {s s' : σ}
    {es : Entries ν ε} (hs : P s) (hread : r.readNamed s es = .ok s') : P s' := by
  rw [readNamed] at hread
  obtain ⟨⟨seen, s''⟩, hentries, hread⟩ := bind_eq_ok_iff.mp hread
  obtain ⟨report, -, hread⟩ := bind_eq_ok_iff.mp hread
  split at hread
  · cases hread
  · cases hread
    exact readEntries_keeps h hs hentries

theorem readItems_keeps {r : Record ν ε σ} {P : σ → Prop} {finish : Except ε (Cause → ε)}
    {ms : List (Member ν ε σ)}
    (h : ∀ m ∈ ms, ∀ v change, m.read v = .ok change → ∀ s, P s → P (change s))
    {index : Nat} {close : Except ε Unit} {s s' : σ} {items : List (Item ν ε)} (hs : P s)
    (hread : r.readItems finish index close s ms items = .ok s') : P s' := by
  induction ms generalizing index close s items with
  | nil =>
    rw [readItems] at hread
    obtain ⟨-, -, hread⟩ := bind_eq_ok_iff.mp hread
    cases hread
    exact hs
  | cons m ms ih =>
    have hms : ∀ m' ∈ ms, ∀ v change, m'.read v = .ok change → ∀ s, P s → P (change s) :=
      fun m' hm' => h m' (List.mem_cons_of_mem _ hm')
    cases items with
    | nil =>
      rw [readItems] at hread
      obtain ⟨report, -, hread⟩ := bind_eq_ok_iff.mp hread
      split at hread
      · cases hread
      · exact ih hms hs hread
    | cons item rest =>
      rw [readItems] at hread
      obtain ⟨change, hchange, hread⟩ := bind_eq_ok_iff.mp hread
      exact ih hms (h m List.mem_cons_self item.value change hchange s hs) hread

/-- **Records.** -/
theorem read_keeps [Reading ν ε] {r : Record ν ε σ} {P : σ → Prop} (h : r.Keeps P) {s s' : σ}
    {v : ν} (hs : P s) (hread : r.read s v = .ok s') : P s' := by
  rw [read] at hread
  obtain ⟨members, -, hread⟩ := bind_eq_ok_iff.mp hread
  cases members with
  | named es => exact readNamed_keeps h hs hread
  | listed items => exact readItems_keeps h hs hread

end Record

/-! ## Records that are read alike -/

/-- What a member does to parts, the other one does to their image under `h`. -/
structure Member.Follows (h : σ → τ) (m : Member ν ε σ) (m' : Member ν ε τ) : Prop where
  name : m'.name = m.name
  needed : m'.needed = m.needed
  placed : m'.placed = m.placed
  read : ∀ v s, (m'.read v).map (· (h s)) = (m.read v).map fun change => h (change s)

theorem Member.Follows.cases {h : σ → τ} {m : Member ν ε σ} {m' : Member ν ε τ}
    (hm : m.Follows h m') (v : ν) (s : σ) :
    (∃ e, m.read v = .error e ∧ m'.read v = .error e) ∨
    ∃ change change', m.read v = .ok change ∧ m'.read v = .ok change' ∧
      change' (h s) = h (change s) := by
  have hread := hm.read v s
  cases hc : m.read v with
  | error e =>
    cases hc' : m'.read v with
    | error e' =>
      rw [hc, hc'] at hread
      cases hread
      exact .inl ⟨e, rfl, rfl⟩
    | ok change' =>
      rw [hc, hc'] at hread
      cases hread
  | ok change =>
    cases hc' : m'.read v with
    | error e' =>
      rw [hc, hc'] at hread
      cases hread
    | ok change' =>
      rw [hc, hc'] at hread
      exact .inr ⟨change, change', rfl, rfl, Except.ok.inj hread⟩

namespace Record

structure Follows (h : σ → τ) (r : Record ν ε σ) (r' : Record ν ε τ) : Prop where
  name : r'.name = r.name
  closed : r'.closed = r.closed
  members : List.Forall₂ (Member.Follows h) r.members r'.members

theorem Follows.names {h : σ → τ} {r : Record ν ε σ} {r' : Record ν ε τ} (hr : r.Follows h r') :
    r'.names = r.names := by
  have hall : ∀ {ms : List (Member ν ε σ)} {ms' : List (Member ν ε τ)},
      List.Forall₂ (Member.Follows h) ms ms' → ms'.map (·.name) = ms.map (·.name) := by
    intro ms ms' hms
    induction hms with
    | nil => rfl
    | cons hm _ ih => rw [List.map_cons, List.map_cons, hm.name, ih]
  exact hall hr.members

theorem Follows.lengthText {h : σ → τ} {r : Record ν ε σ} {r' : Record ν ε τ}
    (hr : r.Follows h r') : r'.lengthText = r.lengthText := by
  rw [Record.lengthText, Record.lengthText, hr.name, hr.members.length_eq]

/-- A search by what both members have finds a pair of them. -/
theorem find?_follows {h : σ → τ} (p : Member ν ε σ → Bool) (p' : Member ν ε τ → Bool)
    (hp : ∀ {m m'}, Member.Follows h m m' → p' m' = p m) {ms : List (Member ν ε σ)}
    {ms' : List (Member ν ε τ)} (hms : List.Forall₂ (Member.Follows h) ms ms') :
    (ms.find? p = none ∧ ms'.find? p' = none) ∨
    ∃ m m', m.Follows h m' ∧ ms.find? p = some m ∧ ms'.find? p' = some m' := by
  induction hms with
  | nil => exact .inl ⟨rfl, rfl⟩
  | @cons m m' ms ms' hm _ ih =>
    rw [List.find?_cons, List.find?_cons, hp hm]
    cases p m with
    | true => exact .inr ⟨m, m', hm, rfl, rfl⟩
    | false => exact ih

theorem readEntries_follows {h : σ → τ} {r : Record ν ε σ} {r' : Record ν ε τ}
    (hr : r.Follows h r') (seen : List String) (s : σ) (es : List (Entry ν ε)) :
    r'.readEntries seen (h s) es = (r.readEntries seen s es).map (Prod.map id h) := by
  induction es generalizing seen s with
  | nil => rfl
  | cons e rest ih =>
    rw [readEntries, readEntries]
    cases e.name "field identifier" with
    | error fault => rfl
    | ok name =>
      simp only [bind, Except.bind]
      have hfind := find?_follows (fun m => m.name = name) (fun m => m.name = name)
        (fun hm => by rw [hm.name]) hr.members
      rcases hfind with ⟨hnone, hnone'⟩ | ⟨m, m', hm, hsome, hsome'⟩
      · rw [hnone, hnone', hr.closed, hr.names]
        cases r.closed with
        | true => rfl
        | false => exact ih seen s
      · rw [hsome, hsome']
        by_cases hseen : name ∈ seen
        · simp only [hseen, ↓reduceIte]
          rfl
        · simp only [hseen, ↓reduceIte]
          rcases hm.cases e.value s with ⟨fault, hread, hread'⟩ | ⟨change, change', hread, hread', hc⟩
          · rw [hread, hread']
            rfl
          · rw [hread, hread']
            simp only [hc]
            exact ih (name :: seen) (change s)

theorem readNamed_follows {h : σ → τ} {r : Record ν ε σ} {r' : Record ν ε τ}
    (hr : r.Follows h r') (s : σ) (es : Entries ν ε) :
    r'.readNamed (h s) es = (r.readNamed s es).map h := by
  rw [readNamed, readNamed, readEntries_follows hr]
  cases r.readEntries [] s es.entries with
  | error fault => rfl
  | ok found =>
    obtain ⟨seen, s'⟩ := found
    simp only [Except.map, bind, Except.bind]
    cases es.finish with
    | error fault => rfl
    | ok report =>
      have hfind := find?_follows (fun m => m.needed ∧ m.name ∉ seen)
        (fun m => m.needed ∧ m.name ∉ seen) (fun hm => by rw [hm.name, hm.needed]) hr.members
      rcases hfind with ⟨hnone, hnone'⟩ | ⟨m, m', hm, hsome, hsome'⟩
      · simp only [id_eq, hnone, hnone', Prod.map]
      · simp only [id_eq, hsome, hsome', Prod.map, hm.name]

theorem readItems_follows {h : σ → τ} {r : Record ν ε σ} {r' : Record ν ε τ}
    (hr : r.Follows h r') {ms : List (Member ν ε σ)} {ms' : List (Member ν ε τ)}
    (hms : List.Forall₂ (Member.Follows h) ms ms') (finish : Except ε (Cause → ε)) (index : Nat)
    (close : Except ε Unit) (s : σ) (items : List (Item ν ε)) :
    r'.readItems finish index close (h s) ms' items =
      (r.readItems finish index close s ms items).map h := by
  induction hms generalizing index close s items with
  | nil =>
    rw [readItems, readItems]
    cases close <;> rfl
  | cons hm _ ih =>
    cases items with
    | nil =>
      rw [readItems, readItems, hm.placed, hr.lengthText]
      cases finish with
      | error fault => rfl
      | ok report =>
        simp only [bind, Except.bind]
        split
        · rfl
        · exact ih _ _ s []
    | cons item rest =>
      rw [readItems, readItems]
      rcases hm.cases item.value s with ⟨fault, hread, hread'⟩ | ⟨change, change', hread, hread', hc⟩
      · rw [hread, hread']
        rfl
      · rw [hread, hread']
        simp only [bind, Except.bind, hc]
        exact ih _ _ (change s) rest

theorem read_follows [Reading ν ε] {h : σ → τ} {r : Record ν ε σ} {r' : Record ν ε τ}
    (hr : r.Follows h r') (s : σ) (v : ν) : r'.read (h s) v = (r.read s v).map h := by
  rw [read, read, hr.name]
  cases Reading.members ("struct " ++ r.name) v with
  | error fault => rfl
  | ok members =>
    cases members with
    | named es => exact readNamed_follows hr s es
    | listed items => exact readItems_follows hr hr.members items.finish 0 (.ok ()) s items.items

end Record

/-! ## Lists -/

/-- Every element of a list is read from one of its nodes. -/
theorem readList_forall [Reading ν ε] {read : ν → Except ε α} {P : α → Prop}
    (h : ∀ v a, read v = .ok a → P a) {v : ν} {l : List α} (hread : readList read v = .ok l) :
    ∀ a ∈ l, P a := by
  rw [readList] at hread
  obtain ⟨items, -, hread⟩ := bind_eq_ok_iff.mp hread
  obtain ⟨values, hvalues, hread⟩ := bind_eq_ok_iff.mp hread
  obtain ⟨report, -, hread⟩ := bind_eq_ok_iff.mp hread
  cases hread
  intro a ha
  obtain ⟨item, -, hitem⟩ := exists_of_mem_mapM hvalues ha
  exact h item.value a hitem

theorem readList_map [Reading ν ε] {read : ν → Except ε α} {read' : ν → Except ε β} {g : α → β}
    (h : ∀ v, read' v = (read v).map g) (v : ν) :
    readList read' v = (readList read v).map (List.map g) := by
  rw [readList, readList]
  cases (Reading.items "a sequence" v : Except ε (Items ν ε)) with
  | error fault => rfl
  | ok items =>
    simp only [bind, Except.bind, h, mapM_map]
    cases items.items.mapM fun item => read item.value with
    | error fault => rfl
    | ok values => cases items.finish <;> rfl

end Lineup.Document
