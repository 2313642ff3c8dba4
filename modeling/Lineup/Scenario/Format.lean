import Lineup.Json.Answer
import Lineup.Toml.Answer
import Lineup.Yaml.Answer
import Lineup.Scenario.Schema

/-! The formats in which a scenario file may be written. -/

namespace Lineup.Scenario

open Document

inductive Format where
  | json | yaml | toml
deriving DecidableEq, Repr

namespace Format

/-- The format that an extension stands for, in any ASCII case. -/
def ofExtension? (e : String) : Option Format :=
  match String.ofList (e.toList.map Char.toLower) with
  | "yaml" => some yaml
  | "yml" => some yaml
  | "toml" => some toml
  | _ => none

/-- A file is in JSON unless its extension says otherwise. -/
def ofPath (p : Path) : Format := (p.extension?.bind ofExtension?).getD json

/-- Reads a whole text by a schema and reports what is wrong with it. -/
def decode {α : Type}
    (read : {ν ε : Type} → [Reading ν ε] → (Cause → ε) → ν → Except ε α) (f : Format)
    (s : String) : Except String α :=
  match f with
  | json => Json.decode read s
  | yaml => Yaml.decode read s
  | toml => Toml.decode read s

def readScenarios (f : Format) (s : String) : Except String (List Definition) :=
  f.decode (fun _ => readFile) s

end Format
end Lineup.Scenario
