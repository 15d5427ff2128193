import ScriptArena.Draw.Source
import ScriptArena.Value.Fault

namespace ScriptArena.Arena

inductive Refusal where
  | noActiveChallenge
  | nothingToSkip
  | unknownDirection (shown : String)
  | noEmptyCell
  | draw (why : Draw.Failure)
  | noSnake
  | noSuchHint
  | unreadable (fault : Fault)
deriving Repr

namespace Refusal

def message : Refusal → String
  | .noActiveChallenge => "No active challenge"
  | .nothingToSkip => "No active challenge to skip"
  | .unknownDirection shown => "Unknown direction: " ++ shown
  | .noEmptyCell => "No empty cell left on the grid"
  | .draw .emptyRange => "empty range for randrange()"
  | .draw .exhausted => ""
  | .noSnake | .noSuchHint => "tuple index out of range"
  | .unreadable fault => fault.message?.getD ""

-- Refusals that a player is told about have a code.
def code? : Refusal → Option String
  | .noActiveChallenge | .nothingToSkip => some "no_active_challenge"
  | .unknownDirection _ => some "invalid_direction"
  | _ => none

end Refusal
end ScriptArena.Arena
