import Lineup.Proofs.Document.Map

/-!
Open records. Members that they do not know are left alone, whatever they are, so an
open record reads a map as a closed one reads those of its members that are known.
-/

namespace Lineup.Document

open Steps

variable {ν ε σ α β : Type}

/-! ## Members of interest -/

section

variable {ms ms' : List (String × β)} {key : String} {P : β → α → Prop} {absent a : α}

/-- What stands under a key depends on the members under this key only. -/
theorem At.congr (h : ∀ v, (key, v) ∈ ms ↔ (key, v) ∈ ms') :
    At ms key P absent a ↔ At ms' key P absent a := by
  have hkey : key ∈ ms.map (·.1) ↔ key ∈ ms'.map (·.1) := by
    simp only [List.mem_map, Prod.exists, exists_and_right, exists_eq_right, h]
  simp only [At, h, hkey]

/-- Something stands for a key if what is there can be read. -/
theorem At.exists_iff (hd : (ms.map (·.1)).Nodup) :
    (∃ a, At ms key P absent a) ↔ ∀ v, (key, v) ∈ ms → ∃ a, P v a := by
  constructor
  · rintro ⟨a, ha⟩ v hv
    exact ⟨a, ha.of_mem hd hv⟩
  · intro h
    by_cases hkey : key ∈ ms.map (·.1)
    · obtain ⟨⟨_, v⟩, hv, rfl⟩ := List.mem_map.mp hkey
      obtain ⟨a, ha⟩ := h v hv
      exact ⟨a, .inl ⟨v, hv, ha⟩⟩
    · exact ⟨absent, .inr ⟨hkey, rfl⟩⟩

theorem At.filter_iff {names : List String} (h : key ∈ names) :
    At (ms.filter (·.1 ∈ names)) key P absent a ↔ At ms key P absent a :=
  At.congr fun v => by simp [h]

end

/-- What stands under a key is read as `a`, or the key is missing and `a` is the value for this
case. -/
abbrev ReadAt (ms : List (String × ν)) (key : String) (read : ν → Except ε α) (absent a : α) :
    Prop :=
  At ms key (fun v a => read v = .ok a) absent a

theorem ReadAt.eq {ms : List (String × ν)} {key : String} {read : ν → Except ε α} {absent a a' : α}
    (hd : (ms.map (·.1)).Nodup) (h : ReadAt ms key read absent a)
    (h' : ReadAt ms key read absent a') : a = a' :=
  h.unique hd (fun _ ha ha' => Except.ok.inj (ha.symm.trans ha')) h'

/-! ## Reading -/

namespace Record

variable {r : Record ν ε σ} {ms : List (String × ν)} {s s' : σ}

/-- The record that refuses what it does not know. -/
def close (r : Record ν ε σ) : Record ν ε σ := { r with closed := true }

theorem exists_find?_of_mem_names {name : String} (h : name ∈ r.names) :
    ∃ member, r.members.find? (·.name = name) = some member := by
  obtain ⟨member, hm, rfl⟩ := List.mem_map.mp h
  refine Option.isSome_iff_exists.mp (List.find?_isSome.mpr ⟨member, hm, ?_⟩)
  exact decide_eq_true rfl

theorem find?_of_not_mem_names {name : String} (h : name ∉ r.names) :
    r.members.find? (·.name = name) = none := by
  refine List.find?_eq_none.mpr fun member hm hname => h ?_
  rw [← of_decide_eq_true hname]
  exact List.mem_map_of_mem hm

/-- An open record steps over the entries that it does not know. -/
theorem exists_readEntries_close (hopen : r.closed = false) {es : List (Entry ν ε)}
    (hms : List.Forall₂ Entry.Hands es ms) :
    ∃ es', List.Forall₂ Entry.Hands es' (ms.filter (·.1 ∈ r.names)) ∧
      ∀ seen s, r.readEntries seen s es = r.close.readEntries seen s es' := by
  induction hms with
  | nil => exact ⟨[], .nil, fun _ _ => rfl⟩
  | @cons e m es ms he _ ih =>
    obtain ⟨es', hes', heq⟩ := ih
    -- An entry that is known stays, so that a repetition of it is still noticed.
    by_cases hknown : m.1 ∈ r.names
    · obtain ⟨member, hfind⟩ := exists_find?_of_mem_names hknown
      have hfind' : r.close.members.find? (·.name = m.1) = some member := hfind
      refine ⟨e :: es', ?_, fun seen s => ?_⟩
      · rw [List.filter_cons_of_pos (by simpa using hknown)]
        exact .cons he hes'
      · rw [readEntries, readEntries, he.name]
        simp only [bind, Except.bind, hfind, hfind', heq]
    · have hnone := find?_of_not_mem_names hknown
      refine ⟨es', ?_, fun seen s => ?_⟩
      · rw [List.filter_cons_of_neg (by simpa using hknown)]
        exact hes'
      · rw [readEntries, he.name]
        simp only [bind, Except.bind, hnone, hopen]
        exact heq seen s

/-- **Open records.** -/
theorem read_open_eq_ok_iff [Reading ν ε] {v : ν} (hv : Maps v ms) (hopen : r.closed = false) :
    r.read s v = .ok s' ↔ r.Gathers (ms.filter (·.1 ∈ r.names)) s s' := by
  obtain ⟨es, hes, hentries, hfinish⟩ := hv
  obtain ⟨es', hes', heq⟩ := exists_readEntries_close hopen hentries
  have hclose : r.readNamed s es = r.close.readNamed s ⟨es', es.finish⟩ := by
    rw [readNamed, readNamed, heq]
    rfl
  rw [read, hes.members]
  change r.readNamed s es = .ok s' ↔ _
  rw [hclose]
  exact readNamed_eq_ok_iff (r := r.close) ⟨hes', hfinish⟩ rfl

/-- A part of what an open record reads stands under its name, or is what it was before. -/
theorem Governs.at_read_open [Reading ν ε] {key : String} {get : σ → α} {read : ν → Except ε α}
    (h : r.Governs key get read) {v : ν} (hv : Maps v ms) (hopen : r.closed = false)
    (hread : r.read s v = .ok s') : ReadAt ms key read (get s) (get s') := by
  have hkey : key ∈ r.names := by
    obtain ⟨member, hfind, -⟩ := h.own
    have hname : member.name = key := by simpa using List.find?_some hfind
    rw [← hname]
    exact List.mem_map_of_mem (List.mem_of_find?_eq_some hfind)
  exact (At.filter_iff hkey).mp (h.at_gathers ((read_open_eq_ok_iff hv hopen).mp hread))

/-- An open record that needs no member is read if its known members are. -/
theorem exists_read_open [Reading ν ε] {v : ν} (hv : Maps v ms) (hopen : r.closed = false)
    (hd : (ms.map (·.1)).Nodup) (hneeded : ∀ member ∈ r.members, member.needed = false)
    (hreads : ∀ m ∈ ms, m.1 ∈ r.names → ∃ c, r.Reads m c) : ∃ s', r.read s v = .ok s' := by
  have hd' : ((ms.filter (·.1 ∈ r.names)).map (·.1)).Nodup :=
    hd.sublist (List.filter_sublist.map _)
  have hreads' : ∀ m ∈ ms.filter (·.1 ∈ r.names), ∃ c, r.Reads m c := fun m hm =>
    hreads m (List.mem_of_mem_filter hm) (by simpa using List.of_mem_filter hm)
  obtain ⟨s', hs'⟩ := exists_gathers hd' hreads' (fun member hm hneed => by
    rw [hneeded member hm] at hneed
    cases hneed) s
  exact ⟨s', (read_open_eq_ok_iff hv hopen).mpr hs'⟩

end Record
end Lineup.Document
