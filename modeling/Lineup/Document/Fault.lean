import Lineup.Text.Quoted

/-! Why a document does not follow its schema, independent of the format it is written in. -/

namespace Lineup.Document

/-- What stands where something else is expected. A wide integer is one beyond 64 bits. -/
inductive Found where
  | null
  | nothing
  | bool (b : Bool)
  | integer (n : Int)
  | wideInteger (n : Int)
  | floating (text : String)
  | text (s : String)
  | list
  | map
deriving DecidableEq, Repr

/-- A wide integer is given with the 128 bits that hold it, with a sign if it needs one. -/
def Found.describe : Found → String
  | null => "null"
  | nothing => "unit value"
  | bool b => "boolean `" ++ (if b then "true" else "false") ++ "`"
  | integer n => s!"integer `{n}`"
  | wideInteger n => s!"integer `{n}` as " ++ if n < 0 then "i128" else "u128"
  | floating written => "floating point `" ++ written ++ "`"
  | text s => "string " ++ Text.quoted s
  | list => "sequence"
  | map => "map"

inductive Cause where
  | wrongType (found : Found) (expected : String)
  | wrongValue (found : Found) (expected : String)
  | wrongLength (length : Nat) (expected : String)
  | unknownWord (word : String) (known : List String)
  | unknownMember (name : String) (known : List String)
  | missingMember (name : String)
  | repeatedMember (name : String)
  | repeatedRole (role : String)
  | tooMany (instances perInstance : Int) (limit : Nat)
deriving DecidableEq, Repr

/-- Lists what would have been accepted. -/
def choices : List String → String
  | [one] => "expected `" ++ one ++ "`"
  | [one, other] => "expected `" ++ one ++ "` or `" ++ other ++ "`"
  | many => "expected one of " ++ ", ".intercalate (many.map fun s => "`" ++ s ++ "`")

def Cause.message : Cause → String
  | wrongType found expected => "invalid type: " ++ found.describe ++ ", expected " ++ expected
  | wrongValue found expected => "invalid value: " ++ found.describe ++ ", expected " ++ expected
  | wrongLength length expected => s!"invalid length {length}, expected {expected}"
  | unknownWord word known => "unknown variant `" ++ word ++ "`, " ++ choices known
  | unknownMember name known => "unknown field `" ++ name ++ "`, " ++ choices known
  | missingMember name => "missing field `" ++ name ++ "`"
  | repeatedMember name => "duplicate field `" ++ name ++ "`"
  | repeatedRole role => "duplicate browser role `" ++ role ++ "`"
  | tooMany instances perInstance limit =>
    s!"numInstances {instances} x browserPerInstance {perInstance} exceeds the limit of {limit} "
      ++ "browsers per spec"

end Lineup.Document
