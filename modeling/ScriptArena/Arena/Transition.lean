import ScriptArena.Arena.Refusal
import ScriptArena.Arena.State

namespace ScriptArena.Arena.State

-- Start from rest, or pause.
def togglePlay (c : Config) (s : State) : Option State :=
  match s.mode with
  | .idle => some { s with mode := .countdown, countdown := some c.countdownStart }
  | .running | .countdown => some { s with mode := .idle, countdown := none }
  | .challengeActive | .gameOver => none

-- Zero is shown once before the game starts.
def countdownTick (s : State) : Option State :=
  match s.mode, s.countdown with
  | .countdown, some n =>
    if n > 0 then some { s with countdown := some (n - 1) }
    else some { s with mode := .running, countdown := none }
  | _, _ => none

def takesDirection (s : State) : Bool :=
  match s.mode with
  | .idle | .running => true
  | .countdown | .challengeActive | .gameOver => false

-- The rule may forbid a snake with a neck to turn back into it.
def isBlocked (c : Config) (d : Direction) (s : State) : Bool :=
  c.blockReverse && s.snake.length > 1 && d.isOpposite s.direction

def changeDirection (c : Config) (d : Direction) (s : State) : Option State :=
  if !s.takesDirection || s.isBlocked c d then none else some { s with nextDirection := d }

-- Close the active challenge. Its tile stays.
def skipChallenge (s : State) : Except Refusal State :=
  if s.mode = .challengeActive then .ok { s.closed with mode := .running, results := [] }
  else .error .nothingToSkip

def current? (s : State) : Except Refusal Challenge :=
  match s.mode, s.active with
  | .challengeActive, some c => .ok c
  | _, _ => .error .noActiveChallenge

def revealHint (s : State) : Except Refusal (Option State) := do
  let c ← s.current?
  return if s.hints ≥ c.hints.length then none else some { s with hints := s.hints + 1 }

-- A solved challenge brings its points, however often it is solved.
def credit (c : Challenge) (s : State) : State :=
  let solved := if s.solved.contains c.id then s.solved else s.solved ++ [c.id]
  { s with score := s.score + c.points, solved, level := 1 + solved.length }

-- The active challenge is done: its tile goes, and the game goes on.
def resume (s : State) : State :=
  { s.closed with mode := .running, slots := s.slots.filter (some · != s.activeSlot) }

end ScriptArena.Arena.State
