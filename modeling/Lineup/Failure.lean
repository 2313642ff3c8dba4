import Lineup.Path

/-! What can go wrong while a scenario is put together, a file is read, a handler is bound or a
value is printed, and how each case is reported. -/

namespace Lineup

inductive Failure where
  | duplicateIdentity (id : String)
  | notFound (id : String)
  | replicationLimit (id : String) (count limit : Nat)
  | configLoad (path : Path) (reason : String)
  | malformedConfig (path : Path) (reason : String)
  | unknownPreset (name : String)
  | invalidHandlerPath (path : String)
  | duplicateHandlerPath (path : String)
  | configParse (reason : String)
  | json (reason : String)
deriving DecidableEq, Repr

def Failure.message : Failure → String
  | duplicateIdentity id => s!"'{id}' key already registered in browser config map"
  | notFound id => s!"Browser '{id}' is not registered in this scenario"
  | replicationLimit id count limit =>
    s!"Browser '{id}' would expand to {count} browsers, more than the limit of {limit}"
  | configLoad path reason => s!"Failed to read '{path.text}': {reason}"
  | malformedConfig path reason => s!"Invalid scenario file '{path.text}': {reason}"
  | unknownPreset name => s!"Unknown preset scenario '{name}'"
  | invalidHandlerPath path => s!"Handler path '{path}' must start with '/'"
  | duplicateHandlerPath path => s!"A handler is already registered at '{path}'"
  | configParse reason => s!"Invalid configuration file: {reason}"
  | json reason => s!"JSON error: {reason}"

end Lineup
