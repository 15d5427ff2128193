import ScriptArena.Text.Casing

namespace ScriptArena.Arena

-- The cell (0, 0) is the top left one, and y grows downwards.
structure Position where
  x : Int
  y : Int
deriving Repr, DecidableEq

inductive Direction where
  | up | down | left | right
deriving Repr, DecidableEq

namespace Direction

def all : List Direction := [.up, .down, .left, .right]

def name : Direction → String
  | .up => "UP" | .down => "DOWN" | .left => "LEFT" | .right => "RIGHT"

def dx : Direction → Int
  | .left => -1 | .right => 1 | _ => 0

def dy : Direction → Int
  | .up => -1 | .down => 1 | _ => 0

def opposite : Direction → Direction
  | .up => .down | .down => .up | .left => .right | .right => .left

def isOpposite (d e : Direction) : Bool := d.opposite == e

def ofName? (name : String) : Option Direction := all.find? (·.name == name)

-- A name may be written in letters of any case.
def read? (text : String) : Option Direction := ofName? (Text.upper text)

@[simp] theorem opposite_opposite (d : Direction) : d.opposite.opposite = d := by
  cases d <;> rfl

theorem ofName?_name (d : Direction) : ofName? d.name = some d := by
  cases d <;> decide

end Direction

namespace Position

def moved (p : Position) (d : Direction) : Position := ⟨p.x + d.dx, p.y + d.dy⟩

-- Is the cell on a square grid of the given width?
def inBounds (size : Int) (p : Position) : Bool := 0 ≤ p.x && p.x < size && 0 ≤ p.y && p.y < size

theorem moved_opposite (p : Position) (d : Direction) : (p.moved d).moved d.opposite = p := by
  cases d <;> cases p <;>
    simp only [moved, Direction.dx, Direction.dy, Direction.opposite, mk.injEq] <;> omega

theorem moved_ne (p : Position) (d : Direction) : p.moved d ≠ p := by
  intro equal
  have equalX := congrArg Position.x equal
  have equalY := congrArg Position.y equal
  cases d <;> simp only [moved, Direction.dx, Direction.dy] at equalX equalY <;> omega

end Position
end ScriptArena.Arena
