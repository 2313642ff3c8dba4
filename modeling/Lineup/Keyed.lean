/-! Values under text keys, kept in the order of the keys. Two collections with the same
lookups are the same collection, because the order of the entries is part of the type. -/

namespace Lineup

/-- Entries in strictly increasing order of their keys, so no key occurs twice. -/
structure Keyed (α : Type) where
  entries : List (String × α)
  increasing : entries.Pairwise (fun a b => a.1 < b.1)
deriving DecidableEq

namespace Keyed

variable {α : Type}

def empty : Keyed α := ⟨[], .nil⟩

instance : EmptyCollection (Keyed α) := ⟨empty⟩

instance : Inhabited (Keyed α) := ⟨empty⟩

def keys (m : Keyed α) : List String := m.entries.map (·.1)

def values (m : Keyed α) : List α := m.entries.map (·.2)

def size (m : Keyed α) : Nat := m.entries.length

def isEmpty (m : Keyed α) : Bool := m.entries.isEmpty

def find? (m : Keyed α) (key : String) : Option α := m.entries.lookup key

def contains (m : Keyed α) (key : String) : Bool := (m.find? key).isSome

/-- Puts an entry in its place, instead of the entry that has its key. -/
def place (key : String) (a : α) : List (String × α) → List (String × α)
  | [] => [(key, a)]
  | e :: rest =>
    if key < e.1 then (key, a) :: e :: rest
    else if e.1 < key then e :: place key a rest
    else (key, a) :: rest

theorem mem_place {key : String} {a : α} {l : List (String × α)} {e : String × α}
    (h : e ∈ place key a l) : e = (key, a) ∨ e ∈ l := by
  induction l with
  | nil => simpa [place] using h
  | cons d rest ih =>
    rw [place] at h
    split at h
    · simpa using h
    split at h
    · rcases List.mem_cons.mp h with h | h
      · exact .inr (h ▸ List.mem_cons_self)
      · exact (ih h).imp_right (List.mem_cons_of_mem _)
    · exact (List.mem_cons.mp h).imp_right (List.mem_cons_of_mem _)

theorem increasing_place {key : String} {a : α} {l : List (String × α)}
    (h : l.Pairwise (fun a b => a.1 < b.1)) :
    (place key a l).Pairwise (fun a b => a.1 < b.1) := by
  induction l with
  | nil => simp [place]
  | cons d rest ih =>
    obtain ⟨hd, hrest⟩ := List.pairwise_cons.mp h
    rw [place]
    split
    · rename_i hlt
      refine List.pairwise_cons.mpr ⟨fun e he => ?_, h⟩
      rcases List.mem_cons.mp he with rfl | he
      · exact hlt
      · exact String.lt_trans hlt (hd e he)
    split
    · rename_i hlt
      refine List.pairwise_cons.mpr ⟨fun e he => ?_, ih hrest⟩
      rcases mem_place he with rfl | he
      · exact hlt
      · exact hd e he
    · rename_i h₁ h₂
      have hkey : key = d.1 :=
        String.le_antisymm (String.not_lt.mp h₂) (String.not_lt.mp h₁)
      exact List.pairwise_cons.mpr ⟨fun e he => hkey ▸ hd e he, hrest⟩

def insert (m : Keyed α) (key : String) (a : α) : Keyed α :=
  ⟨place key a m.entries, increasing_place m.increasing⟩

/-- Inserts from left to right. -/
def insertMany (m : Keyed α) (added : List (String × α)) : Keyed α :=
  added.foldl (fun m e => m.insert e.1 e.2) m

def ofList (l : List (String × α)) : Keyed α := empty.insertMany l

end Keyed
end Lineup
