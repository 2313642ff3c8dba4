import Lineup.Browser.Kind
import Lineup.Path

/-! The description of one logical browser of a test, which may stand for many concrete
browsers, and the settings it is put together from. -/

namespace Lineup.Browser

/-- Zero `instances` means one browser that is not replicated. A version is never empty and
there is always at least one browser per instance. -/
structure Spec where
  kind : Kind
  scope : Scope
  platform : Option Platform
  version : Option String
  video : Option Path
  instances : UInt32
  perInstance : UInt32
  version_ne : version ≠ some ""
  perInstance_pos : 0 < perInstance
deriving DecidableEq

/-- One choice made while a spec is put together. -/
inductive Setting where
  | kind (k : Kind)
  | scope (s : Scope)
  | platform (p : Platform)
  | version (v : String)
  | video (file : Path)
  | instances (n : UInt32)
  | perInstance (n : UInt32)
deriving DecidableEq, Repr

/-- A spec in the making, in which the version may still be empty and the number of browsers
per instance zero. -/
structure Draft where
  kind : Kind := .chrome
  scope : Scope := .beside
  platform : Option Platform := none
  version : Option String := none
  video : Option Path := none
  instances : UInt32 := 0
  perInstance : UInt32 := 1
deriving DecidableEq, Repr

namespace Draft

def set (d : Draft) : Setting → Draft
  | .kind k => { d with kind := k }
  | .scope s => { d with scope := s }
  | .platform p => { d with platform := some p }
  | .version v => { d with version := some v }
  | .video file => { d with video := some file }
  | .instances n => { d with instances := n }
  | .perInstance n => { d with perInstance := n }

def spec (d : Draft) : Spec where
  kind := d.kind
  scope := d.scope
  platform := d.platform
  version := d.version.filter (· ≠ "")
  video := d.video
  instances := d.instances
  perInstance := if d.perInstance = 0 then 1 else d.perInstance
  version_ne := by simp [Option.filter_eq_some_iff]
  perInstance_pos := by
    split
    · decide
    · exact UInt32.pos_iff_ne_zero.mpr ‹_›

end Draft

/-- Settings take effect from left to right. -/
def Spec.ofSettings (l : List Setting) : Spec := (l.foldl Draft.set {}).spec

instance : Inhabited Spec := ⟨Spec.ofSettings []⟩

end Lineup.Browser
