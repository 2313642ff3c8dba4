import Lineup.Yaml.Scalar.Gap

/-! Scalars without quotes. They end at a colon before a gap, at a comment, and where the
indentation falls back; inside brackets also at a comma or a bracket. -/

namespace Lineup.Yaml.Scalar

def isFlowMark (c : Char) : Bool := c ∈ [',', '[', ']', '{', '}']

/-- The characters up to the next gap or to the end of the scalar. Inside brackets a colon may
not stand before a bracket, a comma or a question mark. -/
def plainRun (flow : Bool) : List Char → Option (List Char)
  | [] => some []
  | c :: rest =>
    if isBlank c || isBreak c then some []
    else if flow && c = ':' && rest.head?.any (fun d => isFlowMark d || d = '?') then none
    else if c = ':' && atGap rest then some []
    else if flow && isFlowMark c then some []
    else (c :: ·) <$> plainRun flow rest

/-- The text of a plain scalar, whether it ends on a new line, and the place behind it. -/
def readPlain (flow : Bool) (indent : Nat) :
    (fuel : Nat) → (text : List Char) → Gap → Cursor → Option (List Char × Bool × Cursor)
  | 0, text, gap, c => some (text, gap.broken, c)
  | fuel + 1, text, gap, c =>
    if c.atMark ∨ c.isAt '#' then some (text, gap.broken, c)
    else
      match plainRun flow c.rest with
      | none => none
      | some [] => some (text, gap.broken, c)
      | some run => do
        let text := text ++ gap.text ++ run
        let c := c.advance run.length
        if c.rest = [] ∨ ¬ atGap c.rest then some (text, false, c)
        else
          let (gap, c) ← Gap.read indent (c.rest.length + 1) {} c
          if ¬ flow ∧ c.column < indent then some (text, gap.broken, c)
          else readPlain flow indent fuel text gap c

end Lineup.Yaml.Scalar
