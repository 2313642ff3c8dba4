import Lineup.Roster.Basic

/-! Texts that stand for a roster: a listing for people, and a fingerprint that keeps apart
tests of one name. -/

namespace Lineup

open Browser

namespace Browser.Instance

/-- An optional part of a text, between what opens and what closes it. -/
def part (opening : String) (value : Option String) (closing : String) : String :=
  match value with
  | some v => opening ++ v ++ closing
  | none => ""

def listing (b : Instance) : String :=
  b.id ++ " (" ++ b.kind.word ++ ", " ++ b.scope.word
    ++ part ", version=" b.version "" ++ part ", platform=" (b.platform.map Platform.word) ""
    ++ ")"

def fingerprint (b : Instance) : String :=
  "(id=" ++ b.id ++ ")(browserType=" ++ b.kind.word ++ ")(scope=" ++ b.scope.word ++ ")"
    ++ part "(browserVersion=" b.version ")"
    ++ part "(platform=" (b.platform.map Platform.word) ")"

end Browser.Instance

namespace Roster

def summary (r : Roster) : String :=
  "Number of browser(s) = " ++ r.size.repr
    ++ (if r.isEmpty then "" else " : ")
    ++ ", ".intercalate (r.toList.map Instance.listing)

def fingerprint (r : Roster) : String :=
  ";".intercalate (r.toList.map Instance.fingerprint)

/-- The name of the test that runs with this roster. -/
def label (r : Roster) : String :=
  match r.name with
  | some name => name ++ " [" ++ r.fingerprint ++ "]"
  | none => "[" ++ r.fingerprint ++ "]"

end Roster
end Lineup
