import ScriptArena.Arena.EmptyCell
import ScriptArena.Arena.State

namespace ScriptArena.Arena

inductive Event where
  | none | moved | food | challenge | bug | bugSpawned | started | gameOver
deriving Repr, DecidableEq

def Event.name : Event → String
  | .none => "none" | .moved => "moved" | .food => "food" | .challenge => "challenge"
  | .bug => "bug" | .bugSpawned => "bug_spawned" | .started => "started"
  | .gameOver => "game_over"

structure Outcome where
  state : State
  event : Event
  source : Draw.Source

namespace State

def ended (s : State) (reason : EndReason) : State :=
  { s with mode := .gameOver, reason := some reason }

def start (s : State) : State := { s with mode := .running, countdown := none }

-- The snake has turned and is about to enter the cell ahead.
def turned (s : State) : State := { s with direction := s.nextDirection, ticks := s.ticks + 1 }

-- The snake with one cell more, and the same without its last cells.
def grown (s : State) (target : Position) : List Position := target :: s.snake

def crept (s : State) (target : Position) : List Position := (s.grown target).dropLast

-- Two cells are lost, but the head stays.
def trimmed (s : State) (target : Position) : List Position :=
  if (s.grown target).length > 2 then (s.crept target).dropLast else s.crept target

def eatFood (c : Config) (source : Draw.Source) (s : State) (target : Position) :
    Except Refusal Outcome := do
  let (cell, source) ← emptyCell (target :: s.occupied) c.gridSize source
  let s := { s with
    snake := s.grown target
    food := s.food.filter (· != target) ++ [cell]
    score := s.score + c.foodPoints }
  return ⟨s, .food, source⟩

def openChallenge (catalog : Catalog) (s : State) (target : Position) (slot : Slot) : State :=
  { s with
    mode := .challengeActive
    snake := s.crept target
    active := some (catalog.atIndex slot.index)
    activeSlot := some slot
    hints := 0
    results := [] }

def hitBug (c : Config) (source : Draw.Source) (s : State) (target : Position) : Outcome :=
  let s := { s with snake := s.trimmed target, bugs := s.bugs.filter (· != target) }
  if s.score - c.bugPenalty < 0 then ⟨{ s.ended .bug with score := 0 }, .gameOver, source⟩
  else ⟨{ s with score := s.score - c.bugPenalty }, .bug, source⟩

def spawnBug (c : Config) (source : Draw.Source) (s : State) (target : Position) :
    Except Refusal Outcome := do
  let (cell, source) ← emptyCell (target :: s.occupied) c.gridSize source
  return ⟨{ s with snake := s.crept target, bugs := s.bugs ++ [cell] }, .bugSpawned, source⟩

-- The step onto a cell that is on the grid and not on the snake.
def enter (catalog : Catalog) (c : Config) (source : Draw.Source) (s : State)
    (target : Position) : Except Refusal Outcome :=
  if s.food.contains target then s.eatFood c source target
  else match s.slotAt? target with
    | some slot => .ok ⟨s.openChallenge catalog target slot, .challenge, source⟩
    | none =>
      if s.bugs.contains target then .ok (s.hitBug c source target)
      else if (s.bugs.length : Int) < c.bugFloor then s.spawnBug c source target
      else .ok ⟨{ s with snake := s.crept target }, .moved, source⟩

def step (catalog : Catalog) (c : Config) (source : Draw.Source) (s : State) :
    Except Refusal Outcome :=
  match s.snake with
  | [] => .error .noSnake
  | head :: body =>
    let target := head.moved s.nextDirection
    let s := s.turned
    if !target.inBounds c.gridSize then .ok ⟨s.ended .wall, .gameOver, source⟩
    else if body.contains target then .ok ⟨s.ended .itself, .gameOver, source⟩
    else s.enter catalog c source target

-- Advance a game by one step. A countdown at its end starts the game without a move, and only
-- a running game moves.
def advance (catalog : Catalog) (c : Config) (source : Draw.Source) (s : State) :
    Except Refusal Outcome :=
  if s.mode = .countdown ∧ s.countdown = some 0 then .ok ⟨s.start, .started, source⟩
  else if s.mode = .running then s.step catalog c source
  else .ok ⟨s, .none, source⟩

end State
end ScriptArena.Arena
