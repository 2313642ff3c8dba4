import Lineup.Proofs.Provenance
import Lineup.Proofs.Roster.Addition
import Lineup.Proofs.Steps
import Lineup.Proofs.Text.ByteOrder

/-!
Rosters that are reached by additions, some of them refused. Such a roster is
accounted for by the accepted additions alone: its entries are theirs, put into
order, and the identifiers it has reserved are the keys of its browsers. Both
facts pass from each roster to the next; the rest is read off them.
-/

namespace Lineup.Roster

open Browser Text

/-- A roster without browsers, with or without a name. -/
def fresh : Option String → Roster
  | none => {}
  | some name => named name

/-- What a caller goes on with: a refused addition leaves the roster as it was. -/
def attempt (r : Roster) (c : Addition) : Roster :=
  match r.add c.1 c.2 with
  | .ok r' => r'
  | .error _ => r

def run (r : Roster) (calls : List Addition) : Roster := calls.foldl attempt r

/-- The accepted additions of a run in their order. -/
def accepted (r : Roster) : List Addition → List Addition
  | [] => []
  | c :: rest =>
    match r.add c.1 c.2 with
    | .ok r' => c :: accepted r' rest
    | .error _ => accepted r rest

/-! ## The invariant -/

/-- The additions `acc` are what a roster is made of. -/
structure Accounted (r : Roster) (acc : List Addition) : Prop where
  reserved : r.reserved.ids.keys = r.browsers.keys
  entries : r.browsers.entries.Perm (acc.flatMap Addition.entries)

theorem accounted_fresh (name : Option String) : Accounted (fresh name) [] := by
  cases name <;> exact ⟨rfl, List.Perm.refl _⟩

/-- **Step.** An accepted addition adds its entries, and its identifiers are reserved. -/
theorem Accounted.add {r r' : Roster} {acc : List Addition} {c : Addition}
    (h : Accounted r acc) (hadd : r.add c.1 c.2 = .ok r') : Accounted r' (acc ++ [c]) := by
  obtain ⟨-, hfree, rfl⟩ := add_eq_ok_iff.mp hadd
  have hkeys : ∀ k ∈ c.entries.map (·.1), k ∉ r.browsers.keys := by
    rw [Addition.keys_entries, ← h.reserved]
    exact hfree
  have hdist : (c.entries.map (·.1)).Nodup := by
    rw [Addition.keys_entries]
    exact c.2.nodup_ids c.1
  have hbrowsers := Keyed.entries_insertMany_perm c.entries r.browsers hkeys hdist
  have hids : (c.ids.map fun id => (id, ())).map (·.1) = c.ids := by
    rw [List.map_map]
    exact List.map_id _
  have hreserved := Keyed.entries_insertMany_perm (c.ids.map fun id => (id, ())) r.reserved.ids
    (by rw [hids]; exact hfree) (by rw [hids]; exact c.2.nodup_ids c.1)
  refine ⟨?_, ?_⟩
  · have hleft := hreserved.map (·.1)
    rw [← Reservations.ids_foldl_add, List.map_append, hids] at hleft
    have hright := hbrowsers.map (·.1)
    rw [List.map_append, Addition.keys_entries] at hright
    have hold : r.reserved.ids.entries.map (·.1) = r.browsers.entries.map (·.1) := h.reserved
    rw [hold] at hleft
    exact Keyed.keys_eq_of_perm (hleft.trans hright.symm)
  · rw [List.flatMap_append, List.flatMap_singleton]
    exact hbrowsers.trans (h.entries.append_right c.entries)

/-- **Run.** -/
theorem Accounted.run {r : Roster} {acc : List Addition} (h : Accounted r acc)
    (calls : List Addition) : Accounted (r.run calls) (acc ++ r.accepted calls) := by
  induction calls generalizing r acc with
  | nil =>
    rw [accepted, List.append_nil]
    exact h
  | cons c rest ih =>
    have hstep : r.run (c :: rest) = (r.attempt c).run rest := rfl
    rw [hstep, attempt, accepted]
    cases hadd : r.add c.1 c.2 with
    | ok r' =>
      rw [List.append_cons]
      exact ih (h.add hadd)
    | error f => exact ih h

/-! ## What an accounted roster holds -/

theorem Accounted.mem_entries_iff {r : Roster} {acc : List Addition} (h : Accounted r acc)
    (id : String) (b : Instance) :
    (id, b) ∈ r.browsers.entries ↔ ∃ c ∈ acc, id ∈ c.ids ∧ b = c.2.instanceAt id := by
  rw [h.entries.mem_iff, List.mem_flatMap]
  simp only [Addition.mem_entries_iff]

/-- The additions are the batches that fill a roster. -/
theorem Accounted.madeOf {r : Roster} {acc : List Addition} (h : Accounted r acc) :
    r.browsers.MadeOf Addition.entries acc := h.entries

theorem Accounted.mem_keys_iff {r : Roster} {acc : List Addition} (h : Accounted r acc)
    (id : String) : id ∈ r.browsers.keys ↔ ∃ c ∈ acc, id ∈ c.ids := by
  have hkeys := h.madeOf.mem_keys_iff id
  simp only [Addition.keys_entries] at hkeys
  exact hkeys

theorem Accounted.nodup_ids {r : Roster} {acc : List Addition} (h : Accounted r acc) :
    (acc.flatMap Addition.ids).Nodup := by
  have hkeys : (acc.flatMap Addition.entries).map (·.1) = acc.flatMap Addition.ids := by
    rw [List.map_flatMap]
    simp only [Addition.keys_entries]
  have hperm : r.browsers.keys.Perm (acc.flatMap Addition.ids) := by
    rw [← hkeys]
    exact h.entries.map (·.1)
  exact hperm.nodup_iff.mp r.browsers.nodup_keys

/-- Only one of the additions brought an identifier in. -/
theorem Accounted.filter_eq {r : Roster} {acc : List Addition} (h : Accounted r acc)
    {c : Addition} {id : String} (hc : c ∈ acc) (hid : id ∈ c.ids) :
    (acc.filter fun c' => id ∈ c'.ids) = [c] := by
  have hfilter := h.madeOf.filter_eq (k := id) hc (by rwa [Addition.keys_entries])
  simpa only [Addition.keys_entries] using hfilter

theorem Accounted.size_eq {r : Roster} {acc : List Addition} (h : Accounted r acc) :
    r.size = (acc.map fun c => c.2.count).sum := by
  rw [size, h.madeOf.size_eq]
  simp only [Addition.length_entries]

/-! ## What an accounted roster shows -/

/-- The answers about an identifier under which a browser is registered. -/
structure Shows (r : Roster) (id : String) (b : Instance) : Prop where
  get : r.get id = .ok b
  kind : r.kind id = .ok b.kind
  scope : r.scope id = .ok b.scope
  platform : r.platform id = .ok b.platform
  version : r.version id = .ok b.version
  video : r.video id = .ok b.video
  contains : r.contains id = true

/-- The answers about an identifier under which no browser is registered. -/
structure Lacks (r : Roster) (id : String) : Prop where
  get : r.get id = .error (.notFound id)
  kind : r.kind id = .error (.notFound id)
  scope : r.scope id = .error (.notFound id)
  platform : r.platform id = .error (.notFound id)
  version : r.version id = .error (.notFound id)
  video : r.video id = .error (.notFound id)
  contains : r.contains id = false

theorem get_eq_ok_iff {r : Roster} {id : String} {b : Instance} :
    r.get id = .ok b ↔ (id, b) ∈ r.browsers.entries := by
  rw [Keyed.mem_entries_iff, get]
  cases r.browsers.find? id with
  | none => simp
  | some b' => simp

theorem shows_of_mem {r : Roster} {id : String} {b : Instance}
    (h : (id, b) ∈ r.browsers.entries) : Shows r id b := by
  have hget : r.get id = .ok b := get_eq_ok_iff.mpr h
  have hfind := (Keyed.mem_entries_iff r.browsers id b).mp h
  constructor
  · exact hget
  · rw [kind, hget]; rfl
  · rw [scope, hget]; rfl
  · rw [platform, hget]; rfl
  · rw [version, hget]; rfl
  · rw [video, hget]; rfl
  · rw [contains, Keyed.contains, hfind]; rfl

theorem lacks_of_not_mem {r : Roster} {id : String} (h : id ∉ r.browsers.keys) :
    Lacks r id := by
  have hfind := (Keyed.find?_eq_none_iff r.browsers id).mpr h
  have hget : r.get id = .error (.notFound id) := by rw [get, hfind]
  constructor
  · exact hget
  · rw [kind, hget]; rfl
  · rw [scope, hget]; rfl
  · rw [platform, hget]; rfl
  · rw [version, hget]; rfl
  · rw [video, hget]; rfl
  · rw [contains, Keyed.contains, hfind]; rfl

/-- A roster shows the browsers of the additions `acc` and nothing else. -/
structure Reflects (r : Roster) (acc : List Addition) : Prop where
  reserved : r.reserved.ids.keys = r.browsers.keys
  id_eq_key : ∀ e ∈ r.browsers.entries, e.2.id = e.1
  toList : r.toList.map (·.id) = r.ids
  entries : r.browsers.entries = r.toList.map fun b => (b.id, b)
  ascending : r.ids.Pairwise fun id id' => bytes id < bytes id'
  shows : ∀ c ∈ acc, ∀ id ∈ c.2.ids c.1,
    (acc.filter fun c' => id ∈ c'.2.ids c'.1) = [c] ∧ Shows r id (c.2.instanceAt id)
  lacks : ∀ id, (∀ c ∈ acc, id ∉ c.2.ids c.1) → Lacks r id
  size : r.size = (acc.map fun c => c.2.count).sum

theorem Accounted.reflects {r : Roster} {acc : List Addition} (h : Accounted r acc) :
    Reflects r acc := by
  have hid : ∀ e ∈ r.browsers.entries, e.2.id = e.1 := by
    rintro ⟨id, b⟩ he
    obtain ⟨c, -, -, rfl⟩ := (h.mem_entries_iff id b).mp he
    rfl
  have hentries : r.browsers.entries = r.toList.map fun b => (b.id, b) := by
    rw [Roster.toList, Keyed.values, List.map_map]
    refine (List.map_id _).symm.trans (List.map_congr_left fun e he => ?_)
    exact Prod.ext (hid e he).symm rfl
  constructor
  case reserved => exact h.reserved
  case id_eq_key => exact hid
  case entries => exact hentries
  case toList =>
    rw [ids, Keyed.keys, hentries, List.map_map]
    rfl
  case ascending =>
    rw [ids, Keyed.keys, List.pairwise_map]
    exact r.browsers.increasing.imp fun hlt => (lt_iff_bytes_lt _ _).mp hlt
  case shows =>
    intro c hc id hm
    exact ⟨h.filter_eq hc hm, shows_of_mem ((h.mem_entries_iff id _).mpr ⟨c, hc, hm, rfl⟩)⟩
  case lacks =>
    intro id hnone
    refine lacks_of_not_mem fun hm => ?_
    obtain ⟨c, hc, hid⟩ := (h.mem_keys_iff id).mp hm
    exact hnone c hc hid
  case size => exact h.size_eq

/-! ## Runs -/

theorem attempt_name (r : Roster) (c : Addition) : (r.attempt c).name = r.name := by
  rw [attempt]
  cases hadd : r.add c.1 c.2 with
  | ok r' =>
    obtain ⟨-, -, rfl⟩ := add_eq_ok_iff.mp hadd
    rfl
  | error f => rfl

theorem run_name (r : Roster) (calls : List Addition) : (r.run calls).name = r.name := by
  induction calls generalizing r with
  | nil => rfl
  | cons c rest ih => exact (ih (r.attempt c)).trans (attempt_name r c)

theorem run_append (r : Roster) (calls more : List Addition) :
    r.run (calls ++ more) = (r.run calls).run more := List.foldl_append

/-- Additions that all succeed are a run in which nothing is refused. -/
theorem addAll_eq_ok {r r' : Roster} {calls : List Addition} (h : r.addAll calls = .ok r') :
    r.run calls = r' ∧ r.accepted calls = calls := by
  induction calls generalizing r with
  | nil =>
    cases h
    exact ⟨rfl, rfl⟩
  | cons c rest ih =>
    rw [addAll, List.foldlM_cons] at h
    obtain ⟨r₁, hadd, hrest⟩ := Steps.bind_eq_ok_iff.mp h
    obtain ⟨hrun, hacc⟩ := ih hrest
    have hattempt : r.attempt c = r₁ := by rw [attempt, hadd]
    constructor
    · rw [← hrun, ← hattempt]
      rfl
    · rw [accepted, hadd]
      exact congrArg (c :: ·) hacc

theorem accounted_of_addAll {name : Option String} {r : Roster} {calls : List Addition}
    (h : (fresh name).addAll calls = .ok r) : Accounted r calls := by
  obtain ⟨hrun, hacc⟩ := addAll_eq_ok h
  have haccount := (accounted_fresh name).run calls
  rwa [hrun, hacc, List.nil_append] at haccount

theorem name_of_addAll {name : Option String} {r : Roster} {calls : List Addition}
    (h : (fresh name).addAll calls = .ok r) : r.name = name := by
  rw [← (addAll_eq_ok h).1, run_name]
  cases name <;> rfl

/-- What is noted of additions has no part in what becomes of them. -/
theorem run_register (w : World Id) (r : Roster) (calls : List Addition) :
    (r.register w calls).run = r.addAll calls := by
  refine Steps.run_foldlM (fun r c => ?_) calls r
  cases r.add c.1 c.2 <;> rfl

/-- Additions within the limit stop only at an identifier that is taken. -/
theorem addAll_eq_error {r : Roster} {calls : List Addition} {f : Failure}
    (hlimit : ∀ c ∈ calls, c.2.count ≤ Spec.limit) (h : r.addAll calls = .error f) :
    ∃ id, f = .duplicateIdentity id := by
  obtain ⟨before, c, after, r₁, rfl, -, hadd⟩ := Steps.foldlM_eq_error_iff.mp h
  have hc : c ∈ before ++ c :: after := List.mem_append_right _ List.mem_cons_self
  obtain ⟨id, -, hf⟩ := add_eq_error (hlimit c hc) hadd
  exact ⟨id, hf⟩

/-- **Whole runs.** Whatever is added to a fresh roster, accepted or refused, the roster shows
exactly the browsers of the accepted additions, and further additions leave these as they are. -/
theorem run_reflects_accepted (name : Option String) (calls : List Addition) :
    ((fresh name).run calls).name = name ∧
    Reflects ((fresh name).run calls) ((fresh name).accepted calls) ∧
    ∀ more id b, ((fresh name).run calls).get id = .ok b →
      ((fresh name).run (calls ++ more)).get id = .ok b := by
  have h := (accounted_fresh name).run calls
  rw [List.nil_append] at h
  refine ⟨?_, h.reflects, fun more id b hget => ?_⟩
  · rw [run_name]
    cases name <;> rfl
  · obtain ⟨c, hc, hid, rfl⟩ := (h.mem_entries_iff id b).mp (get_eq_ok_iff.mp hget)
    have hlater := h.run more
    rw [run_append]
    exact get_eq_ok_iff.mpr ((hlater.mem_entries_iff id _).mpr
      ⟨c, List.mem_append_left _ hc, hid, rfl⟩)

end Lineup.Roster
