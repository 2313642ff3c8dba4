/-! Paths as they are written. A path is never normalised: it is joined, taken apart and
printed as text. -/

namespace Lineup

structure Path where
  text : String
deriving DecidableEq, Repr, Inhabited

namespace Path

def isAbsolute (p : Path) : Bool := p.text.toList.head? = some '/'

/-- An absolute path replaces the base. Otherwise one slash stands between the two parts,
unless the base is empty or ends with a slash. -/
def join (base : Path) (p : Path) : Path :=
  if p.isAbsolute ∨ base.text = "" then p
  else if base.text.toList.getLast? = some '/' then ⟨base.text ++ p.text⟩
  else ⟨base.text ++ "/" ++ p.text⟩

/-- The parts between slashes. -/
def parts (p : Path) : List (List Char) := p.text.toList.splitOn '/'

/-- The last part that names something: empty parts and single dots at the end do not. A dot
that is the whole of a relative path does not name anything either. -/
def lastPart (p : Path) : List Char :=
  (p.parts.reverse.find? fun part => part ≠ [] ∧ part ≠ ['.']).getD []

/-- The text after the last dot of the last part. A part that is two dots, or whose only dot
is its first character, has no extension. -/
def extension? (p : Path) : Option String :=
  let name := p.lastPart
  if name = ['.', '.'] then none
  else
    let after := name.reverse.takeWhile (· ≠ '.')
    let stem := (name.reverse.dropWhile (· ≠ '.')).drop 1
    if stem.isEmpty then none else some (String.ofList after.reverse)

end Path
end Lineup
