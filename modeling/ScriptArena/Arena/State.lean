import ScriptArena.Arena.Grid
import ScriptArena.Judge.Verdict

namespace ScriptArena.Arena

inductive Mode where
  | idle | countdown | running | challengeActive | gameOver
deriving Repr, DecidableEq

namespace Mode

def all : List Mode := [.idle, .countdown, .running, .challengeActive, .gameOver]

def name : Mode → String
  | .idle => "idle" | .countdown => "countdown" | .running => "running"
  | .challengeActive => "challenge_active" | .gameOver => "game_over"

def ofName? (name : String) : Option Mode := all.find? (·.name == name)

end Mode

inductive EndReason where
  | wall | itself | bug
deriving Repr, DecidableEq

namespace EndReason

def all : List EndReason := [.wall, .itself, .bug]

def name : EndReason → String
  | .wall => "wall" | .itself => "self" | .bug => "bug"

def ofName? (name : String) : Option EndReason := all.find? (·.name == name)

end EndReason

-- A challenge tile. Its place in the catalog never changes.
structure Slot where
  position : Position
  index : Int
deriving Repr, DecidableEq

structure Config where
  gridSize : Int := 15
  foodPoints : Int := 10
  bugPenalty : Int := 20
  bugFloor : Int := 3
  countdownStart : Int := 3
  blockReverse : Bool := false
deriving Repr, DecidableEq

structure State where
  -- From the head on.
  snake : List Position
  direction : Direction
  nextDirection : Direction
  food : List Position
  slots : List Slot
  bugs : List Position
  score : Int := 0
  level : Int := 1
  mode : Mode := .idle
  reason : Option EndReason := none
  active : Option Challenge := none
  activeSlot : Option Slot := none
  -- The ids of the solved challenges, each once.
  solved : List String := []
  countdown : Option Int := none
  hints : Int := 0
  results : List Verdict := []
  ticks : Int := 0

namespace State

-- Every cell that holds the snake, food, a bug or a tile.
def occupied (s : State) : List Position :=
  s.snake ++ s.food ++ s.bugs ++ s.slots.map Slot.position

def slotAt? (s : State) (p : Position) : Option Slot := s.slots.find? (·.position == p)

-- Every game begins like this.
def initial : State where
  snake := [⟨7, 7⟩]
  direction := .right
  nextDirection := .right
  food := [⟨12, 10⟩]
  slots := [⟨⟨3, 3⟩, 0⟩, ⟨⟨11, 5⟩, 1⟩, ⟨⟨6, 12⟩, 2⟩]
  bugs := [⟨8, 11⟩, ⟨13, 3⟩, ⟨2, 9⟩]

-- No challenge is active.
def closed (s : State) : State := { s with active := none, activeSlot := none, hints := 0 }

end State
end ScriptArena.Arena
