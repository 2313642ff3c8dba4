import Lineup.Handler.Table
import Lineup.Proofs.Provenance
import Lineup.Proofs.Text.ByteOrder

/-!
Tables that are filled by calls, some of them refused. A call is accepted if all of
its paths are rooted, free and distinct. The bindings of a table are those of the
accepted calls, so each path serves what the one call that lists it gave it, and no
later call takes it away.
-/

namespace Lineup.Handler

open Text

/-- A path begins with a slash. -/
def Rooted (path : String) : Prop := ∃ rest, path = "/" ++ rest

theorem rooted_iff_head? (path : String) : Rooted path ↔ path.toList.head? = some '/' := by
  rw [List.head?_eq_some_iff]
  constructor
  · rintro ⟨rest, rfl⟩
    exact ⟨rest.toList, String.toList_append⟩
  · rintro ⟨rest, h⟩
    refine ⟨String.ofList rest, ?_⟩
    rw [← String.toList_inj, h]
    simp

/-- What is to be bound, and the paths that it is to be bound to. -/
abbrev Call (σ φ : Type) := Target σ φ × List String

/-- A call that was accepted, with the receipt for it. -/
abbrev Accepted (σ φ : Type) := Call σ φ × Receipt

variable {σ φ : Type}

/-- The bindings that a call asks for. -/
def Call.bindings (c : Call σ φ) : List (String × Target σ φ) := c.2.map (·, c.1)

theorem Call.keys_bindings (c : Call σ φ) : c.bindings.map (·.1) = c.2 := by
  rw [bindings, List.map_map]
  exact List.map_id _

theorem Call.mem_bindings_iff (c : Call σ φ) (path : String) (target : Target σ φ) :
    (path, target) ∈ c.bindings ↔ path ∈ c.2 ∧ c.1 = target := by
  simp [bindings, eq_comm]

namespace Table

/-! ## One call -/

theorem isSome_lookup_iff (t : Table σ φ) (path : String) :
    (t.lookup path).isSome = true ↔ path ∈ t.paths :=
  (Keyed.mem_keys_iff t.bindings path).symm

theorem fault?_eq_none_iff (t : Table σ φ) (seen batch : List String) :
    t.fault? seen batch = none ↔
      (∀ path ∈ batch, Rooted path ∧ path ∉ t.paths ∧ path ∉ seen) ∧ batch.Nodup := by
  induction batch generalizing seen with
  | nil => simp [fault?]
  | cons path rest ih =>
    rw [fault?, List.forall_mem_cons, List.nodup_cons, rooted_iff_head?]
    simp only [isSome_lookup_iff]
    split
    · rename_i hroot
      simp [hroot]
    split
    · rename_i htaken
      simp only [reduceCtorEq, false_iff]
      rintro ⟨⟨⟨-, hfree, hnew⟩, -⟩, -⟩
      exact htaken.elim hfree hnew
    · rename_i hroot htaken
      rw [not_not] at hroot
      rw [not_or] at htaken
      rw [ih]
      constructor
      · rintro ⟨hrest, hd⟩
        refine ⟨⟨⟨hroot, htaken⟩, fun path' hm => ?_⟩, fun hm => ?_, hd⟩
        · obtain ⟨hroot', hfree, hnew⟩ := hrest path' hm
          exact ⟨hroot', hfree, fun hs => hnew (List.mem_cons_of_mem _ hs)⟩
        · exact (hrest path hm).2.2 List.mem_cons_self
      · rintro ⟨⟨-, hrest⟩, hpath, hd⟩
        refine ⟨fun path' hm => ?_, hd⟩
        obtain ⟨hroot', hfree, hnew⟩ := hrest path' hm
        refine ⟨hroot', hfree, fun hs => ?_⟩
        rcases List.mem_cons.mp hs with rfl | hs
        · exact hpath hm
        · exact hnew hs

/-- The table with all paths of a call bound. -/
def extend (t : Table σ φ) (c : Call σ φ) : Table σ φ := ⟨t.bindings.insertMany c.bindings⟩

theorem bind_eq_ok_iff {t t' : Table σ φ} {c : Call σ φ} {receipt : Receipt} :
    t.bind c.1 c.2 = .ok (t', receipt) ↔
      (∀ path ∈ c.2, Rooted path ∧ path ∉ t.paths) ∧ c.2.Nodup ∧
        t' = t.extend c ∧ receipt = ⟨c.2, c.1.lifetime⟩ := by
  have hnone := fault?_eq_none_iff t [] c.2
  simp only [List.not_mem_nil, not_false_eq_true, and_true] at hnone
  rw [Table.bind]
  cases hf : t.fault? [] c.2 with
  | none =>
    obtain ⟨hfree, hd⟩ := hnone.mp hf
    simp only [Except.ok.injEq, Prod.mk.injEq]
    constructor
    · rintro ⟨rfl, rfl⟩
      exact ⟨hfree, hd, rfl, rfl⟩
    · rintro ⟨-, -, rfl, rfl⟩
      exact ⟨rfl, rfl⟩
  | some f =>
    simp only [reduceCtorEq, false_iff]
    rintro ⟨hfree, hd, -, -⟩
    rw [hnone.mpr ⟨hfree, hd⟩] at hf
    cases hf

/-! ## Runs -/

/-- What a caller goes on with: a refused call leaves the table as it was. -/
def attempt (t : Table σ φ) (c : Call σ φ) : Table σ φ :=
  match t.bind c.1 c.2 with
  | .ok (t', _) => t'
  | .error _ => t

def run (t : Table σ φ) (calls : List (Call σ φ)) : Table σ φ := calls.foldl attempt t

/-- The accepted calls of a run in their order, with their receipts. -/
def accepted (t : Table σ φ) : List (Call σ φ) → List (Accepted σ φ)
  | [] => []
  | c :: rest =>
    match t.bind c.1 c.2 with
    | .ok (t', receipt) => (c, receipt) :: accepted t' rest
    | .error _ => accepted t rest

theorem run_append (t : Table σ φ) (calls more : List (Call σ φ)) :
    t.run (calls ++ more) = (t.run calls).run more := List.foldl_append

/-- The accepted calls `acc` are what a table is made of. -/
structure Accounted (t : Table σ φ) (acc : List (Accepted σ φ)) : Prop where
  bindings : t.bindings.MadeOf (fun a => a.1.bindings) acc
  rooted : ∀ a ∈ acc, ∀ path ∈ a.1.2, Rooted path
  receipt : ∀ a ∈ acc, a.2 = ⟨a.1.2, a.1.1.lifetime⟩

theorem accounted_empty : Accounted ({} : Table σ φ) [] :=
  ⟨Keyed.madeOf_empty _, by simp, by simp⟩

/-- **Step.** An accepted call binds all of its paths, and takes none from another call. -/
theorem Accounted.bind {t t' : Table σ φ} {acc : List (Accepted σ φ)} {c : Call σ φ}
    {receipt : Receipt} (h : Accounted t acc) (hbind : t.bind c.1 c.2 = .ok (t', receipt)) :
    Accounted t' (acc ++ [(c, receipt)]) := by
  obtain ⟨hfree, hd, rfl, rfl⟩ := bind_eq_ok_iff.mp hbind
  have hnew : ∀ path ∈ c.bindings.map (·.1), path ∉ t.bindings.keys := by
    rw [c.keys_bindings]
    exact fun path hm => (hfree path hm).2
  have hdist : (c.bindings.map (·.1)).Nodup := by
    rw [c.keys_bindings]
    exact hd
  constructor
  · exact h.bindings.insertMany (b := (c, _)) hnew hdist
  · intro a ha
    rcases List.mem_append.mp ha with ha | ha
    · exact h.rooted a ha
    · rw [List.mem_singleton] at ha
      subst ha
      exact fun path hm => (hfree path hm).1
  · intro a ha
    rcases List.mem_append.mp ha with ha | ha
    · exact h.receipt a ha
    · rw [List.mem_singleton] at ha
      subst ha
      rfl

/-- **Run.** -/
theorem Accounted.run {t : Table σ φ} {acc : List (Accepted σ φ)} (h : Accounted t acc)
    (calls : List (Call σ φ)) : Accounted (t.run calls) (acc ++ t.accepted calls) := by
  induction calls generalizing t acc with
  | nil =>
    rw [accepted, List.append_nil]
    exact h
  | cons c rest ih =>
    have hstep : t.run (c :: rest) = (t.attempt c).run rest := rfl
    rw [hstep, attempt, accepted]
    cases hbind : t.bind c.1 c.2 with
    | ok result =>
      obtain ⟨t', receipt⟩ := result
      rw [List.append_cons]
      exact ih (h.bind hbind)
    | error f => exact ih h

/-! ## What an accounted table serves -/

/-- A table serves the accepted calls `acc` and nothing else. -/
structure Serves (t : Table σ φ) (acc : List (Accepted σ φ)) : Prop where
  rooted : ∀ path ∈ t.paths, Rooted path
  /-- A path is bound if one accepted call lists it and no other one does, and to what that
  call gave. -/
  lookup_iff : ∀ path target, t.lookup path = some target ↔
    ∃ a, (acc.filter fun a' => path ∈ a'.1.2) = [a] ∧ a.1.1 = target
  receipt : ∀ a ∈ acc, a.2.paths = a.1.2 ∧ a.2.lifetime = a.1.1.lifetime
  mem_paths_iff : ∀ path, path ∈ t.paths ↔ ∃ a ∈ acc, path ∈ a.1.2
  ascending : t.paths.Pairwise fun path path' => bytes path < bytes path'
  size : t.size = (acc.map fun a => a.1.2.length).sum

theorem Accounted.mem_paths_iff {t : Table σ φ} {acc : List (Accepted σ φ)} (h : Accounted t acc)
    (path : String) : path ∈ t.paths ↔ ∃ a ∈ acc, path ∈ a.1.2 := by
  have hkeys := h.bindings.mem_keys_iff path
  simp only [Call.keys_bindings] at hkeys
  exact hkeys

theorem Accounted.filter_eq {t : Table σ φ} {acc : List (Accepted σ φ)} (h : Accounted t acc)
    {a : Accepted σ φ} {path : String} (ha : a ∈ acc) (hm : path ∈ a.1.2) :
    (acc.filter fun a' => path ∈ a'.1.2) = [a] := by
  have hfilter := h.bindings.filter_eq (k := path) ha (by rwa [Call.keys_bindings])
  simpa only [Call.keys_bindings] using hfilter

theorem Accounted.lookup_iff {t : Table σ φ} {acc : List (Accepted σ φ)} (h : Accounted t acc)
    (path : String) (target : Target σ φ) : t.lookup path = some target ↔
      ∃ a ∈ acc, path ∈ a.1.2 ∧ a.1.1 = target := by
  rw [lookup, ← Keyed.mem_entries_iff, h.bindings.mem_entries_iff]
  simp only [Call.mem_bindings_iff]

theorem Accounted.serves {t : Table σ φ} {acc : List (Accepted σ φ)} (h : Accounted t acc) :
    Serves t acc := by
  constructor
  case rooted =>
    intro path hm
    obtain ⟨a, ha, hpath⟩ := (h.mem_paths_iff path).mp hm
    exact h.rooted a ha path hpath
  case lookup_iff =>
    intro path target
    rw [h.lookup_iff]
    constructor
    · rintro ⟨a, ha, hm, htarget⟩
      exact ⟨a, h.filter_eq ha hm, htarget⟩
    · rintro ⟨a, hfilter, htarget⟩
      have hmem : a ∈ acc.filter fun a' => path ∈ a'.1.2 := by
        rw [hfilter]
        exact List.mem_singleton_self a
      obtain ⟨ha, hm⟩ := List.mem_filter.mp hmem
      exact ⟨a, ha, of_decide_eq_true hm, htarget⟩
  case receipt =>
    intro a ha
    rw [h.receipt a ha]
    exact ⟨rfl, rfl⟩
  case mem_paths_iff => exact h.mem_paths_iff
  case ascending =>
    rw [paths, Keyed.keys, List.pairwise_map]
    exact t.bindings.increasing.imp fun hlt => (lt_iff_bytes_lt _ _).mp hlt
  case size =>
    rw [Table.size, h.bindings.size_eq]
    simp only [Call.bindings, List.length_map]

/-- **Whole runs.** Whatever is called on an empty table, accepted or refused, the table serves
exactly the accepted calls, and further calls leave its bindings as they are. -/
theorem run_serves_accepted (calls : List (Call σ φ)) :
    Serves (({} : Table σ φ).run calls) (({} : Table σ φ).accepted calls) ∧
    ∀ more path target, (({} : Table σ φ).run calls).lookup path = some target →
      (({} : Table σ φ).run (calls ++ more)).lookup path = some target := by
  have h := accounted_empty.run calls
  rw [List.nil_append] at h
  refine ⟨h.serves, fun more path target hlookup => ?_⟩
  obtain ⟨a, ha, hm, htarget⟩ := (h.lookup_iff path target).mp hlookup
  rw [run_append]
  exact ((h.run more).lookup_iff path target).mpr
    ⟨a, List.mem_append_left _ ha, hm, htarget⟩

-- The second call is refused as a whole, so its first path stays free for the third one.
example :
    let t := ({} : Table Nat Nat).run
      [(.shared 1, ["/b", "/a"]), (.perSession 2, ["/c", "/a"]), (.perSessionNamed "x", ["/c"]),
        (.shared 3, ["c"]), (.shared 4, [])]
    t.paths = ["/a", "/b", "/c"] ∧ t.lookup "/c" = some (.perSessionNamed "x") := by
  decide +kernel

end Table
end Lineup.Handler
