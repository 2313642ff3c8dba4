import Lineup.Proofs.Document.Named
import Lineup.Proofs.Pairing
import Mathlib.Data.List.Nodup

/-!
Maps whose members are handed through one by one, under names that may repeat, and
what a closed record gathers from them. It gathers something exactly if every name
is that of a member and occurs once, every value is one that its member reads, and no
needed member is missing. A part of what is gathered is then what stands under its
name, or what was there before if nothing does, so the order does not count. In a
list it does, and every element is read.
-/

namespace Lineup.Document

open Steps Pairing

variable {ν ε σ α β γ : Type}

/-! ## Members by name -/

/-- What stands under a key is read as `a`, or nothing stands there and `a` is the value for
this case. -/
def At (ms : List (String × β)) (key : String) (P : β → α → Prop) (absent a : α) : Prop :=
  (∃ v, (key, v) ∈ ms ∧ P v a) ∨ (key ∉ ms.map (·.1) ∧ a = absent)

section

variable {ms : List (String × β)} {key : String} {P : β → α → Prop} {absent a a' : α} {v v' : β}

theorem eq_of_mem_of_nodup (hd : (ms.map (·.1)).Nodup) (h : (key, v) ∈ ms)
    (h' : (key, v') ∈ ms) : v = v' := by
  have he : (key, v) = (key, v') := List.inj_on_of_nodup_map hd h h' rfl
  exact congrArg Prod.snd he

theorem At.of_mem (hd : (ms.map (·.1)).Nodup) (h : At ms key P absent a) (hv : (key, v) ∈ ms) :
    P v a := by
  rcases h with ⟨v', hv', ha⟩ | ⟨hnone, -⟩
  · rwa [eq_of_mem_of_nodup hd hv hv']
  · exact absurd (List.mem_map_of_mem hv) hnone

theorem At.unique (hd : (ms.map (·.1)).Nodup) (hP : ∀ v, P v a → P v a' → a = a')
    (h : At ms key P absent a) (h' : At ms key P absent a') : a = a' := by
  rcases h with ⟨v, hv, ha⟩ | ⟨hnone, rfl⟩
  · exact hP v ha (h'.of_mem hd hv)
  · rcases h' with ⟨v', hv', -⟩ | ⟨-, rfl⟩
    · exact absurd (List.mem_map_of_mem hv') hnone
    · rfl

end

/-! ## Members that correspond -/

/-- The members of two maps under the same names, which may stand in different orders. -/
def Correspond (R : β → γ → Prop) (ms : List (String × β)) (ms' : List (String × γ)) : Prop :=
  ∃ l, List.Forall₂ (fun m m' => m.1 = m'.1 ∧ R m.2 m'.2) ms l ∧ l.Perm ms'

namespace Correspond

variable {R : β → γ → Prop} {ms : List (String × β)} {ms' : List (String × γ)}

theorem keys (h : Correspond R ms ms') : (ms.map (·.1)).Perm (ms'.map (·.1)) := by
  obtain ⟨l, hl, hperm⟩ := h
  rw [map_eq (fun _ _ hm => hm.1) hl]
  exact hperm.map _

theorem nodup_iff (h : Correspond R ms ms') :
    (ms.map (·.1)).Nodup ↔ (ms'.map (·.1)).Nodup := h.keys.nodup_iff

theorem exists_right (h : Correspond R ms ms') {key : String} {v : β} (hv : (key, v) ∈ ms) :
    ∃ v', (key, v') ∈ ms' ∧ R v v' := by
  obtain ⟨l, hl, hperm⟩ := h
  obtain ⟨⟨key', v'⟩, hm, rfl, hR⟩ := Pairing.exists_right hl hv
  exact ⟨v', hperm.mem_iff.mp hm, hR⟩

theorem exists_left (h : Correspond R ms ms') {key : String} {v' : γ} (hv' : (key, v') ∈ ms') :
    ∃ v, (key, v) ∈ ms ∧ R v v' := by
  obtain ⟨l, hl, hperm⟩ := h
  obtain ⟨⟨key', v⟩, hm, rfl, hR⟩ := Pairing.exists_left hl (hperm.mem_iff.mpr hv')
  exact ⟨v, hm, hR⟩

theorem exists_iff (h : Correspond R ms ms') {key : String} {P : β → Prop} {Q : γ → Prop}
    (hPQ : ∀ v v', (key, v') ∈ ms' → R v v' → (P v ↔ Q v')) :
    (∃ v, (key, v) ∈ ms ∧ P v) ↔ ∃ v', (key, v') ∈ ms' ∧ Q v' := by
  constructor
  · rintro ⟨v, hv, hP⟩
    obtain ⟨v', hv', hR⟩ := h.exists_right hv
    exact ⟨v', hv', (hPQ v v' hv' hR).mp hP⟩
  · rintro ⟨v', hv', hQ⟩
    obtain ⟨v, hv, hR⟩ := h.exists_left hv'
    exact ⟨v, hv, (hPQ v v' hv' hR).mpr hQ⟩

theorem at_iff (h : Correspond R ms ms') {key : String} {P : β → α → Prop} {Q : γ → α → Prop}
    {absent a : α} (hPQ : ∀ v v', (key, v') ∈ ms' → R v v' → (P v a ↔ Q v' a)) :
    At ms key P absent a ↔ At ms' key Q absent a := by
  exact or_congr (h.exists_iff hPQ) (and_congr_left' (not_congr h.keys.mem_iff))

/-- What corresponds to the members of the one map corresponds to those of the other. -/
theorem congr (h : Correspond R ms ms') {P : β → α → Prop} {Q : γ → α → Prop}
    (hPQ : ∀ key v v', (key, v') ∈ ms' → R v v' → ∀ a, P v a ↔ Q v' a) {l : List (String × α)} :
    Correspond P ms l ↔ Correspond Q ms' l := by
  obtain ⟨ms₀, hms, hperm⟩ := h
  have hpairs : List.Forall₂ (fun m m' => m.1 = m'.1 ∧ ∀ a, P m.2 a ↔ Q m'.2 a) ms ms₀ := by
    refine imp_of_mem (fun m _ m' hm' hR => ⟨hR.1, ?_⟩) hms
    exact hPQ m'.1 m.2 m'.2 (hperm.mem_iff.mp hm') hR.2
  -- `ms₀` has the members of `ms'` in the order of `ms`; what belongs to them moves along.
  constructor
  · rintro ⟨l₀, hl, hl₀⟩
    have hQ : List.Forall₂ (fun m' e => m'.1 = e.1 ∧ Q m'.2 e.2) ms₀ l₀ :=
      forall₂_comp (fun hm he => ⟨hm.1.symm.trans he.1, (hm.2 _).mp he.2⟩) hpairs.flip hl
    obtain ⟨l₁, hl₁, hperm₁⟩ := List.perm_comp_forall₂ hperm.symm hQ
    exact ⟨l₁, hl₁, hperm₁.trans hl₀⟩
  · rintro ⟨l₀, hl, hl₀⟩
    obtain ⟨l₁, hl₁, hperm₁⟩ := List.perm_comp_forall₂ hperm hl
    exact ⟨l₁, forall₂_comp (fun hm he => ⟨hm.1.trans he.1, (hm.2 _).mpr he.2⟩) hpairs hl₁,
      hperm₁.trans hl₀⟩

end Correspond

/-! ## Maps -/

/-- An entry under a readable name. -/
structure Entry.Hands (e : Entry ν ε) (m : String × ν) : Prop where
  name : ∀ expected, e.name expected = .ok m.1
  value : e.value = m.2

/-- Readable names, and an end behind the last of them. -/
structure Entries.Hands (es : Entries ν ε) (ms : List (String × ν)) : Prop where
  entries : List.Forall₂ Entry.Hands es.entries ms
  finish : ∃ report, es.finish = .ok report

/-- A node that is a map, whatever it is asked to be. -/
structure IsMap [Reading ν ε] (v : ν) (es : Entries ν ε) : Prop where
  entries : ∀ expected, Reading.entries expected v = .ok es
  members : ∀ expected, Reading.members expected v = .ok (.named es)
  names : ∀ e ∈ es.entries, ∀ expected expected' name,
    e.name expected = .ok name → e.name expected' = .ok name

/-- A map that hands these members through, one by one. -/
def Maps [Reading ν ε] (v : ν) (ms : List (String × ν)) : Prop :=
  ∃ es : Entries ν ε, IsMap v es ∧ es.Hands ms

theorem Entries.Hands.names {es : Entries ν ε} {ms : List (String × ν)} (h : es.Hands ms) :
    ∀ e ∈ es.entries, ∀ expected expected' name,
      e.name expected = .ok name → e.name expected' = .ok name := by
  intro e he expected expected' name hname
  obtain ⟨m, -, hm⟩ := Pairing.exists_right h.entries he
  rw [hm.name] at hname ⊢
  exact hname

/-- A node whose names are readable whatever they are asked to be is a map. -/
theorem Maps.of_hands [Reading ν ε] {v : ν} {es : Entries ν ε} {ms : List (String × ν)}
    (hentries : ∀ expected, Reading.entries expected v = .ok es)
    (hmembers : ∀ expected, Reading.members expected v = .ok (.named es)) (hms : es.Hands ms) :
    Maps v ms :=
  ⟨es, ⟨hentries, hmembers, hms.names⟩, hms⟩

/-- A member whose changes leave a part alone. -/
def Member.Leaves (m : Member ν ε σ) (get : σ → α) : Prop :=
  ∀ v change, m.read v = .ok change → ∀ s, get (change s) = get s

theorem Member.leaves_of_set {m : Member ν ε σ} {get : σ → α} (read : ν → Except ε β)
    (set : β → σ → σ) (hread : ∀ v, m.read v = set <$> read v)
    (hset : ∀ b s, get (set b s) = get s) : m.Leaves get := by
  intro v change h s
  rw [hread] at h
  obtain ⟨b, -, rfl⟩ := map_eq_ok_iff.mp h
  exact hset b s

namespace Record

variable {r : Record ν ε σ} {ms : List (String × ν)} {s s' : σ}

/-- The record reads a member as a change. -/
def Reads (r : Record ν ε σ) (m : String × ν) (c : String × (σ → σ)) : Prop :=
  m.1 = c.1 ∧ ∃ member, r.members.find? (·.name = m.1) = some member ∧ member.read m.2 = .ok c.2

/-- What a record gathers from members under different names: their changes, one after another. -/
def Gathers (r : Record ν ε σ) (ms : List (String × ν)) (s s' : σ) : Prop :=
  ∃ cs, List.Forall₂ r.Reads ms cs ∧ (ms.map (·.1)).Nodup ∧
    (∀ member ∈ r.members, member.needed = true → member.name ∈ ms.map (·.1)) ∧ s' = apply cs s

/-! ## From maps to changes -/

theorem takes_of_readEntries (hclosed : r.closed = true) {es : List (Entry ν ε)}
    (hnames : ∀ e ∈ es, ∀ expected expected' name,
      e.name expected = .ok name → e.name expected' = .ok name)
    {seen seen' : List String} (h : r.readEntries seen s es = .ok (seen', s')) :
    ∃ cs, List.Forall₂ r.Takes es cs ∧ (cs.map (·.1)).Nodup ∧ (∀ c ∈ cs, c.1 ∉ seen) ∧
      seen' = (cs.map (·.1)).reverse ++ seen ∧ s' = apply cs s := by
  induction es generalizing seen s with
  | nil =>
    cases h
    exact ⟨[], .nil, List.nodup_nil, by simp, rfl, rfl⟩
  | cons e rest ih =>
    obtain ⟨hname, hrest⟩ := List.forall_mem_cons.mp hnames
    rw [readEntries] at h
    obtain ⟨name, hn, h⟩ := bind_eq_ok_iff.mp h
    split at h
    · rw [hclosed] at h
      cases h
    · rename_i member hfind
      split at h
      · cases h
      · rename_i hfresh
        obtain ⟨change, hchange, h⟩ := bind_eq_ok_iff.mp h
        obtain ⟨cs, hcs, hd, hnew, rfl, rfl⟩ := ih hrest h
        refine ⟨(name, change) :: cs, .cons ⟨fun expected => hname _ expected name hn,
          member, hfind, hchange⟩ hcs, ?_, ?_, ?_, rfl⟩
        · rw [List.map_cons, List.nodup_cons]
          refine ⟨fun hm => ?_, hd⟩
          obtain ⟨c, hc, heq⟩ := List.mem_map.mp hm
          exact hnew c hc (heq ▸ List.mem_cons_self)
        · refine List.forall_mem_cons.mpr ⟨hfresh, fun c hc hm => ?_⟩
          exact hnew c hc (List.mem_cons_of_mem _ hm)
        · simp

theorem takes_of_readNamed (hclosed : r.closed = true) {es : Entries ν ε}
    (hnames : ∀ e ∈ es.entries, ∀ expected expected' name,
      e.name expected = .ok name → e.name expected' = .ok name)
    (h : r.readNamed s es = .ok s') :
    ∃ cs, List.Forall₂ r.Takes es.entries cs ∧ (cs.map (·.1)).Nodup ∧
      (∃ report, es.finish = .ok report) ∧
      (∀ member ∈ r.members, member.needed = true → member.name ∈ cs.map (·.1)) ∧
      s' = apply cs s := by
  rw [readNamed] at h
  obtain ⟨⟨seen, s₁⟩, hentries, h⟩ := bind_eq_ok_iff.mp h
  obtain ⟨report, hfinish, h⟩ := bind_eq_ok_iff.mp h
  obtain ⟨cs, hcs, hd, -, rfl, rfl⟩ := takes_of_readEntries hclosed hnames hentries
  split at h
  · cases h
  · rename_i hnone
    cases h
    refine ⟨cs, hcs, hd, ⟨report, hfinish⟩, fun member hm hneeded => ?_, rfl⟩
    have hmissing := List.find?_eq_none.mp hnone member hm
    simpa [hneeded] using hmissing

/-- An entry that is taken hands a member through, which is read as the change. -/
theorem hands_of_takes {es : List (Entry ν ε)} {cs : List (String × (σ → σ))}
    (h : List.Forall₂ r.Takes es cs) :
    ∃ ms, List.Forall₂ Entry.Hands es ms ∧ List.Forall₂ r.Reads ms cs := by
  induction h with
  | nil => exact ⟨[], .nil, .nil⟩
  | @cons e c es cs he _ ih =>
    obtain ⟨ms, hms, hcs⟩ := ih
    exact ⟨(c.1, e.value) :: ms, .cons ⟨he.name, rfl⟩ hms, .cons ⟨rfl, he.read⟩ hcs⟩

theorem takes_of_hands {e : Entry ν ε} {m : String × ν} {c : String × (σ → σ)} (he : e.Hands m)
    (hm : r.Reads m c) : r.Takes e c := by
  obtain ⟨hname, hread⟩ := hm
  rw [← he.value, hname] at hread
  exact ⟨fun expected => hname ▸ he.name expected, hread⟩

theorem gathers_of_read [Reading ν ε] {v : ν} {es : Entries ν ε} (hv : IsMap v es)
    (hclosed : r.closed = true) (h : r.read s v = .ok s') :
    ∃ ms, es.Hands ms ∧ r.Gathers ms s s' := by
  rw [read, hv.members] at h
  obtain ⟨cs, hcs, hd, hfinish, hneeded, rfl⟩ := takes_of_readNamed hclosed hv.names h
  obtain ⟨ms, hms, hreads⟩ := hands_of_takes hcs
  have hkeys : ms.map (·.1) = cs.map (·.1) := map_eq (fun _ _ hm => hm.1) hreads
  refine ⟨ms, ⟨hms, hfinish⟩, cs, hreads, ?_, ?_, rfl⟩
  · rwa [hkeys]
  · rwa [hkeys]

theorem readNamed_eq_ok_iff {es : Entries ν ε} (hms : es.Hands ms) (hclosed : r.closed = true) :
    r.readNamed s es = .ok s' ↔ r.Gathers ms s s' := by
  constructor
  · intro h
    obtain ⟨cs, hcs, hd, -, hneeded, rfl⟩ := takes_of_readNamed hclosed hms.names h
    obtain ⟨ms', hms', hreads⟩ := hands_of_takes hcs
    have heq : ms' = ms := by
      refine Relator.RightUnique.forall₂ (fun e m m' hm hm' => ?_) hms' hms.entries
      exact Prod.ext (Except.ok.inj ((hm.name "").symm.trans (hm'.name "")))
        (hm.value.symm.trans hm'.value)
    subst heq
    have hkeys : ms'.map (·.1) = cs.map (·.1) := map_eq (fun _ _ hm => hm.1) hreads
    rw [← hkeys] at hd hneeded
    exact ⟨cs, hreads, hd, hneeded, rfl⟩
  · rintro ⟨cs, hreads, hd, hneeded, rfl⟩
    obtain ⟨report, hfinish⟩ := hms.finish
    have hkeys : ms.map (·.1) = cs.map (·.1) := map_eq (fun _ _ hm => hm.1) hreads
    rw [hkeys] at hd hneeded
    have htakes : List.Forall₂ r.Takes es.entries cs :=
      forall₂_comp (S := r.Reads) takes_of_hands hms.entries hreads
    exact readNamed_of_takes htakes hd hfinish hneeded s

/-- **Maps.** -/
theorem read_eq_ok_iff [Reading ν ε] {v : ν} (hv : Maps v ms) (hclosed : r.closed = true) :
    r.read s v = .ok s' ↔ r.Gathers ms s s' := by
  obtain ⟨es, hes, hms⟩ := hv
  rw [read, hes.members]
  exact readNamed_eq_ok_iff hms hclosed

/-! ## From changes to parts -/

/-- One member of a record reads a part of what is gathered, and the others leave it alone. -/
structure Governs (r : Record ν ε σ) (key : String) (get : σ → α) (read : ν → Except ε α) :
    Prop where
  own : ∃ member, r.members.find? (·.name = key) = some member ∧ ∃ set : α → σ → σ,
    (∀ v, member.read v = set <$> read v) ∧ ∀ a s, get (set a s) = a
  others : ∀ member ∈ r.members, member.name ≠ key →
    ∀ v change, member.read v = .ok change → ∀ s, get (change s) = get s

variable {key : String} {get : σ → α} {read : ν → Except ε α}

/-- The first member of this name governs a part if it sets it and the others leave it alone. -/
theorem governs_of_members (before : List (Member ν ε σ)) {after : List (Member ν ε σ)}
    {m : Member ν ε σ} (hr : r.members = before ++ m :: after) (hname : m.name = key)
    (hbefore : ∀ m' ∈ before, m'.name ≠ key) (set : α → σ → σ)
    (hread : ∀ v, m.read v = set <$> read v) (hget : ∀ a s, get (set a s) = a)
    (hleaves : ∀ m' ∈ before ++ after, m'.Leaves get) : r.Governs key get read := by
  refine ⟨⟨m, ?_, set, hread, hget⟩, fun m' hm' hne => ?_⟩
  · rw [hr, List.find?_append, List.find?_eq_none.mpr (by simpa using hbefore)]
    simp [hname]
  · rw [hr, List.mem_append, List.mem_cons] at hm'
    rcases hm' with hm' | rfl | hm'
    · exact hleaves m' (List.mem_append_left _ hm')
    · exact absurd hname hne
    · exact hleaves m' (List.mem_append_right _ hm')

theorem Governs.at_apply (h : r.Governs key get read) {cs : List (String × (σ → σ))}
    (hms : List.Forall₂ r.Reads ms cs) (hd : (ms.map (·.1)).Nodup) (s : σ) :
    At ms key (fun v a => read v = .ok a) (get s) (get (apply cs s)) := by
  induction hms generalizing s with
  | nil => exact .inr ⟨List.not_mem_nil, rfl⟩
  | @cons m c ms cs hm _ ih =>
    obtain ⟨-, member, hfind, hread⟩ := hm
    rw [List.map_cons, List.nodup_cons] at hd
    have hstep : apply (c :: cs) s = apply cs (c.2 s) := rfl
    rw [hstep]
    by_cases hkey : m.1 = key
    · -- Behind the member itself nothing stands under its name, so it keeps its value.
      obtain ⟨member', hfind', set, hset, hget⟩ := h.own
      rw [hkey, hfind'] at hfind
      cases hfind
      rw [hset] at hread
      obtain ⟨a, ha, hc⟩ := map_eq_ok_iff.mp hread
      have hlast : get (apply cs (c.2 s)) = a := by
        rcases ih hd.2 (c.2 s) with ⟨v, hv, -⟩ | ⟨-, heq⟩
        · exact absurd (List.mem_map_of_mem hv) (hkey ▸ hd.1)
        · rw [heq, ← hc, hget]
      refine .inl ⟨m.2, ?_, hlast ▸ ha⟩
      rw [← hkey]
      exact List.mem_cons_self
    · have hname : member.name = m.1 := by simpa using List.find?_some hfind
      have hkeep : get (c.2 s) = get s :=
        h.others member (List.mem_of_find?_eq_some hfind) (hname ▸ hkey) m.2 c.2 hread s
      have hrest := ih hd.2 (c.2 s)
      rw [hkeep] at hrest
      rcases hrest with ⟨v, hv, ha⟩ | ⟨hnone, heq⟩
      · exact .inl ⟨v, List.mem_cons_of_mem _ hv, ha⟩
      · refine .inr ⟨fun hmem => ?_, heq⟩
        rcases List.mem_cons.mp hmem with h0 | hmem
        · exact hkey h0.symm
        · exact hnone hmem

/-- **Parts.** -/
theorem Governs.at_gathers (h : r.Governs key get read) (hms : r.Gathers ms s s') :
    At ms key (fun v a => read v = .ok a) (get s) (get s') := by
  obtain ⟨cs, hreads, hd, -, rfl⟩ := hms
  exact h.at_apply hreads hd s

/-- What stands under the name of a part is read as a change, if the part can be read. -/
theorem Governs.reads (h : r.Governs key get read) (hd : (ms.map (·.1)).Nodup) {absent a : α}
    (hat : At ms key (fun v a => read v = .ok a) absent a) {v : ν} (hv : (key, v) ∈ ms) :
    ∃ c, r.Reads (key, v) c := by
  have ha : read v = .ok a := At.of_mem (P := fun v a => read v = .ok a) hd hat hv
  obtain ⟨member, hfind, set, hset, -⟩ := h.own
  refine ⟨(key, set a), rfl, member, hfind, ?_⟩
  rw [hset, ha]
  rfl

theorem exists_gathers (hd : (ms.map (·.1)).Nodup) (hreads : ∀ m ∈ ms, ∃ c, r.Reads m c)
    (hneeded : ∀ member ∈ r.members, member.needed = true → member.name ∈ ms.map (·.1)) (s : σ) :
    ∃ s', r.Gathers ms s s' := by
  obtain ⟨cs, hcs⟩ := exists_forall₂ hreads
  exact ⟨_, cs, hcs, hd, hneeded, rfl⟩

theorem Gathers.nodup (h : r.Gathers ms s s') : (ms.map (·.1)).Nodup := by
  obtain ⟨-, -, hd, -, -⟩ := h
  exact hd

theorem Gathers.mem_names (h : r.Gathers ms s s') {m : String × ν} (hm : m ∈ ms) :
    m.1 ∈ r.names := by
  obtain ⟨cs, hreads, -, -, -⟩ := h
  obtain ⟨c, -, -, member, hfind, -⟩ := Pairing.exists_right hreads hm
  have hname : member.name = m.1 := by simpa using List.find?_some hfind
  rw [← hname]
  exact List.mem_map_of_mem (List.mem_of_find?_eq_some hfind)

end Record

/-! ## Lists -/

/-- The elements of a list that can be read to its end. -/
def Elements [Reading ν ε] (v : ν) (vs : List ν) : Prop := ∃ items : Items ν ε,
  Reading.items "a sequence" v = .ok items ∧ (∃ report, items.finish = .ok report) ∧
    items.items.map (·.value) = vs

theorem readList_eq_ok_iff [Reading ν ε] {read : ν → Except ε α} {v : ν} {l : List α} :
    readList read v = .ok l ↔
      ∃ vs, Elements v vs ∧ List.Forall₂ (fun v a => read v = .ok a) vs l := by
  rw [readList, bind_eq_ok_iff]
  constructor
  · rintro ⟨items, hitems, h⟩
    obtain ⟨values, hvalues, h⟩ := bind_eq_ok_iff.mp h
    obtain ⟨report, hfinish, h⟩ := bind_eq_ok_iff.mp h
    cases h
    refine ⟨_, ⟨items, hitems, ⟨report, hfinish⟩, rfl⟩, ?_⟩
    rw [List.forall₂_map_left_iff]
    exact mapM_eq_ok_iff.mp hvalues
  · rintro ⟨_, ⟨items, hitems, ⟨report, hfinish⟩, rfl⟩, hl⟩
    rw [List.forall₂_map_left_iff] at hl
    exact ⟨items, hitems, bind_eq_ok_iff.mpr ⟨l, mapM_eq_ok_iff.mpr hl,
      bind_eq_ok_iff.mpr ⟨report, hfinish, rfl⟩⟩⟩

theorem Elements.unique [Reading ν ε] {v : ν} {vs vs' : List ν} (h : Elements v vs)
    (h' : Elements v vs') : vs = vs' := by
  obtain ⟨items, hitems, -, rfl⟩ := h
  obtain ⟨items', hitems', -, rfl⟩ := h'
  rw [Except.ok.inj (hitems.symm.trans hitems')]

theorem readList_of_elements [Reading ν ε] {read : ν → Except ε α} {v : ν} {vs : List ν}
    (h : Elements v vs) {l : List α} :
    readList read v = .ok l ↔ List.Forall₂ (fun v a => read v = .ok a) vs l := by
  rw [readList_eq_ok_iff]
  constructor
  · rintro ⟨vs', h', hl⟩
    rwa [h.unique h']
  · intro hl
    exact ⟨vs, h, hl⟩

end Lineup.Document
