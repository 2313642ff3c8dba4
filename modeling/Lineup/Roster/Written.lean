import Lineup.Roster.Label
import Lineup.Json.Value

/-! Browsers and rosters as JSON values. What a browser does not have is left out. -/

namespace Lineup

open Json

namespace Browser.Instance

def member (name : String) (value : Option String) : List (String × Value) :=
  value.toList.map fun s => (name, .text s)

def members (b : Instance) : List (String × Value) :=
  [("id", .text b.id), ("browserType", .text b.kind.word), ("scope", .text b.scope.word)]
    ++ member "platform" (b.platform.map Platform.word) ++ member "version" b.version
    ++ member "video" (b.video.map Path.text)

end Browser.Instance

namespace Roster

/-- Name, label and browsers, with the members of each object in the order of their names. -/
def value (r : Roster) : Value :=
  .ordered [("name", .ofOption r.name), ("label", .text r.label),
    ("browsers", .list (r.toList.map fun b => .ordered b.members))]

end Roster
end Lineup
