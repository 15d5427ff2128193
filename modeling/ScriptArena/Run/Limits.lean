import ScriptArena.Script.Literal
import ScriptArena.Value.Basic

namespace ScriptArena

-- The time that a submission may take. A budget is given as a number of seconds, and all that
-- counts is whether it is spent before the submission starts.
inductive TimeBudget where
  | ample
  | spent (seconds : String)
deriving Repr, DecidableEq

-- The order in which a set gives its items. The host picks one for every set that is made.
structure SetOrder where
  arrange : Nat → List Value → List Value
  perm (n : Nat) (items : List Value) : (arrange n items).Perm items

def SetOrder.asMade : SetOrder := ⟨fun _ items => items, fun _ items => .refl items⟩

structure Limits where
  maxSteps : Int := 100000
  time : TimeBudget := .ample
  maxCallDepth : Int := 50
  maxOutputLines : Int := 200
  maxLineLength : Int := 1000
  maxSequenceLength : Int := 100000
  maxExponent : Int := 10000
  maxIntBits : Int := 100000
  order : SetOrder := .asMade
  names : Script.CharNames := .unknown

-- The ceilings of one are no higher than those of the other, and sets come in the same order.
structure Limits.Within (l m : Limits) : Prop where
  maxSteps : l.maxSteps ≤ m.maxSteps
  maxCallDepth : l.maxCallDepth ≤ m.maxCallDepth
  maxOutputLines : l.maxOutputLines ≤ m.maxOutputLines
  maxLineLength : l.maxLineLength ≤ m.maxLineLength
  maxSequenceLength : l.maxSequenceLength ≤ m.maxSequenceLength
  maxExponent : l.maxExponent ≤ m.maxExponent
  maxIntBits : l.maxIntBits ≤ m.maxIntBits
  order : m.order = l.order

end ScriptArena
