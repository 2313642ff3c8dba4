import Lineup.Proofs.Handler.Run
import Lineup.Proofs.InPlace

/-!
What becomes of one call to bind paths. All of its paths are bound if they are rooted,
free and distinct. Otherwise the call fails with what is wrong with the first path that
cannot be bound, whatever the paths behind it are, and the table is what it was.
-/

namespace Lineup.Handler.Table

open InPlace

variable {σ φ : Type}

/-- Paths that can be bound together. -/
structure Bindable (t : Table σ φ) (paths : List String) : Prop where
  rooted : ∀ path ∈ paths, Rooted path
  free : ∀ path ∈ paths, path ∉ t.paths
  distinct : paths.Nodup

/-- The outcomes of a call: how it ends, and what it leaves behind. -/
inductive Binds (t : Table σ φ) (target : Target σ φ) (paths : List String) :
    Except Failure Receipt × Table σ φ → Prop
  | invalid {before after : List String} {path : String} : paths = before ++ path :: after →
      Bindable t before → ¬ Rooted path → Binds t target paths (.error (.invalidHandlerPath path), t)
  | duplicate {before after : List String} {path : String} : paths = before ++ path :: after →
      Bindable t before → Rooted path → path ∈ t.paths ∨ path ∈ before →
      Binds t target paths (.error (.duplicateHandlerPath path), t)
  | bound {t' : Table σ φ} : Bindable t paths →
      (∀ path, t'.lookup path = if path ∈ paths then some target else t.lookup path) →
      Binds t target paths (.ok ⟨paths, target.lifetime⟩, t')

/-- What is wrong with a path, the ones before it being known. -/
def faultAt? (t : Table σ φ) (seen : List String) (path : String) : Option Failure :=
  if path.toList.head? ≠ some '/' then some (.invalidHandlerPath path)
  else if (t.lookup path).isSome ∨ path ∈ seen then some (.duplicateHandlerPath path)
  else none

/-- Binds in place, path by path, when all of the paths have been looked at. -/
def bindInPlace (target : Target σ φ) (paths : List String) : InPlace (Table σ φ) Receipt := do
  inspect faultAt? [] paths
  changeAll (fun t path => { t with bindings := t.bindings.insert path target }) paths
  return ⟨paths, target.lifetime⟩

/-! ## Faults -/

theorem faultAt?_eq_some_iff {t : Table σ φ} {seen : List String} {path : String} {f : Failure} :
    t.faultAt? seen path = some f ↔
      (¬ Rooted path ∧ f = .invalidHandlerPath path) ∨
      (Rooted path ∧ (path ∈ t.paths ∨ path ∈ seen) ∧ f = .duplicateHandlerPath path) := by
  rw [faultAt?, rooted_iff_head?]
  simp only [isSome_lookup_iff]
  split
  · rename_i hroot
    simp [hroot, eq_comm]
  split
  · rename_i hroot htaken
    rw [not_not] at hroot
    simp [hroot, htaken, eq_comm]
  · rename_i hroot htaken
    rw [not_not] at hroot
    simp [hroot, htaken]

theorem firstFault?_eq (t : Table σ φ) (seen paths : List String) :
    firstFault? t.faultAt? seen paths = t.fault? seen paths := by
  induction paths generalizing seen with
  | nil => rfl
  | cons path rest ih =>
    rw [firstFault?, fault?, faultAt?]
    split_ifs
    · rfl
    · rfl
    · exact ih (path :: seen)

theorem fault?_eq_none_iff_bindable {t : Table σ φ} {paths : List String} :
    t.fault? [] paths = none ↔ Bindable t paths := by
  rw [fault?_eq_none_iff]
  constructor
  · rintro ⟨hpaths, hd⟩
    exact ⟨fun path hm => (hpaths path hm).1, fun path hm => (hpaths path hm).2.1, hd⟩
  · rintro ⟨hrooted, hfree, hd⟩
    exact ⟨fun path hm => ⟨hrooted path hm, hfree path hm, List.not_mem_nil⟩, hd⟩

/-- The fault of a list is that of its first path that cannot be bound behind those before it. -/
theorem fault?_eq_some_iff {t : Table σ φ} {paths : List String} {f : Failure} :
    t.fault? [] paths = some f ↔ ∃ before path after, paths = before ++ path :: after ∧
      Bindable t before ∧
      ((¬ Rooted path ∧ f = .invalidHandlerPath path) ∨
        (Rooted path ∧ (path ∈ t.paths ∨ path ∈ before) ∧ f = .duplicateHandlerPath path)) := by
  rw [← firstFault?_eq, firstFault?_eq_some_iff]
  simp only [firstFault?_eq, fault?_eq_none_iff_bindable, faultAt?_eq_some_iff, List.append_nil,
    List.mem_reverse]

/-! ## Bindings -/

theorem lookup_insertMany (paths : List String) (target : Target σ φ)
    (m : Keyed (Target σ φ)) (path : String) :
    (m.insertMany (paths.map (·, target))).find? path =
      if path ∈ paths then some target else m.find? path := by
  induction paths generalizing m with
  | nil => rfl
  | cons first rest ih =>
    have hstep : m.insertMany ((first :: rest).map (·, target)) =
        (m.insert first target).insertMany (rest.map (·, target)) := rfl
    rw [hstep, ih, Keyed.find?_insert]
    by_cases hrest : path ∈ rest
    · simp [hrest]
    · simp [hrest]

theorem eq_of_lookup_eq {t t' : Table σ φ} (h : ∀ path, t.lookup path = t'.lookup path) :
    t = t' := by
  cases t
  cases t'
  exact congrArg Table.mk (Keyed.eq_of_find?_eq h)

/-! ## Outcomes -/

/-- A call in place leaves behind the table that is handed over, or the old one. -/
theorem outcome_bindInPlace (target : Target σ φ) (paths : List String) (t : Table σ φ) :
    (bindInPlace target paths).outcome t = match t.bind target paths with
      | .ok (t', receipt) => (.ok receipt, t')
      | .error f => (.error f, t) := by
  rw [bindInPlace, outcome_bind, outcome_inspect, firstFault?_eq, Table.bind]
  cases t.fault? [] paths with
  | some f => rfl
  | none =>
    refine (outcome_bind _ _ t).trans ?_
    rw [outcome_changeAll]
    exact congrArg (Except.ok _, ·)
      (Keyed.foldl_insert mk (·, target) (fun _ _ => rfl) paths t.bindings)

theorem outcome_iff_binds (t : Table σ φ) (target : Target σ φ) (paths : List String)
    (result : Except Failure Receipt × Table σ φ) :
    (bindInPlace target paths).outcome t = result ↔ Binds t target paths result := by
  rw [outcome_bindInPlace, Table.bind]
  constructor
  · rintro rfl
    cases hfault : t.fault? [] paths with
    | none => exact .bound (fault?_eq_none_iff_bindable.mp hfault) (lookup_insertMany _ _ _)
    | some f =>
      obtain ⟨before, path, after, hsplit, hbefore, ⟨hroot, rfl⟩ | ⟨hroot, htaken, rfl⟩⟩ :=
        fault?_eq_some_iff.mp hfault
      · exact .invalid hsplit hbefore hroot
      · exact .duplicate hsplit hbefore hroot htaken
  · intro hbinds
    cases hbinds with
    | invalid hsplit hbefore hroot =>
      rw [fault?_eq_some_iff.mpr ⟨_, _, _, hsplit, hbefore, .inl ⟨hroot, rfl⟩⟩]
    | duplicate hsplit hbefore hroot htaken =>
      rw [fault?_eq_some_iff.mpr ⟨_, _, _, hsplit, hbefore, .inr ⟨hroot, htaken, rfl⟩⟩]
    | bound hbindable hlookup =>
      rw [fault?_eq_none_iff_bindable.mpr hbindable]
      refine Prod.ext rfl (eq_of_lookup_eq fun path => ?_)
      rw [hlookup]
      exact lookup_insertMany paths target t.bindings path

/-- **One call.** A call has one outcome: it binds its paths and no others, which it can do if
they are rooted, free and distinct, or it fails and has changed nothing. -/
theorem binding_exact_or_nothing (t : Table σ φ) (target : Target σ φ) (paths : List String) :
    (∀ result, (bindInPlace target paths).outcome t = result ↔ Binds t target paths result) ∧
    ((bindInPlace target paths).outcome t = match t.bind target paths with
      | .ok (t', receipt) => (.ok receipt, t')
      | .error f => (.error f, t)) ∧
    ((∃ receipt t', (bindInPlace target paths).outcome t = (.ok receipt, t')) ↔
      (∀ path ∈ paths, Rooted path) ∧ (∀ path ∈ paths, path ∉ t.paths) ∧ paths.Nodup) ∧
    (bindInPlace target []).outcome t = (.ok ⟨[], target.lifetime⟩, t) := by
  refine ⟨outcome_iff_binds t target paths, outcome_bindInPlace target paths t, ?_, rfl⟩
  simp only [outcome_bindInPlace, Table.bind]
  constructor
  · rintro ⟨receipt, t', h⟩
    cases hfault : t.fault? [] paths with
    | none =>
      obtain ⟨hrooted, hfree, hd⟩ := fault?_eq_none_iff_bindable.mp hfault
      exact ⟨hrooted, hfree, hd⟩
    | some f =>
      rw [hfault] at h
      cases h
  · rintro ⟨hrooted, hfree, hd⟩
    rw [fault?_eq_none_iff_bindable.mpr ⟨hrooted, hfree, hd⟩]
    exact ⟨_, _, rfl⟩

-- What is wrong with a path is said only if nothing is wrong with the ones before it.
example :
    let reply := fun paths => (({} : Table Nat Nat).bind (.shared 1) paths).map (·.2)
    reply ["/a", "b", "b"] = .error (.invalidHandlerPath "b") ∧
    reply ["/a", "/a", "b"] = .error (.duplicateHandlerPath "/a") ∧
    reply ["/b", "/a"] = .ok ⟨["/b", "/a"], .shared⟩ := by
  decide +kernel

end Lineup.Handler.Table
