import ScriptArena.Arena.Engine
import ScriptArena.Document.Challenge

namespace ScriptArena.Arena

structure Snapshot where
  gridSize : Int
  state : State
  highScore : Int
  user : Option String
  version : Nat

def Engine.snapshot (e : Engine) : Snapshot :=
  ⟨e.config.gridSize, e.state, e.tracker.highScore, e.tracker.user?, e.version⟩

def Position.fields (p : Position) : List (String × Datum) := [("x", .int p.x), ("y", .int p.y)]

def Position.document (p : Position) : Datum := .object p.fields

-- A cell and what is on it.
def Position.cell (kind : String) (p : Position) : Datum :=
  .object (p.fields ++ [("type", .str kind)])

-- The first `n` items; a negative number leaves out items at the end.
def firstItems {α : Type} (n : Int) (items : List α) : List α :=
  items.take (if n < 0 then n + items.length else n).toNat

def sortedTexts (texts : List String) : List String := texts.mergeSort (fun a b => decide (a ≤ b))

namespace Snapshot

def cells (s : State) : List Datum :=
  s.food.map (·.cell "food") ++ s.slots.map (·.position.cell "challenge") ++
    s.bugs.map (·.cell "bug")

-- Of a challenge only the revealed hints are shown, and never its solution.
def challengeView (hints : Int) (c : Challenge) : Datum :=
  let revealed := { c with hints := firstItems hints c.hints }
  .object (revealed.fields id ++ [("hints_total", .int c.hints.length)])

def document (shot : Snapshot) : Datum :=
  let s := shot.state
  .object [("grid_size", .int shot.gridSize), ("snake", .list (s.snake.map (·.document))),
    ("direction", .str s.direction.name), ("cells", .list (cells s)), ("score", .int s.score),
    ("level", .int s.level), ("mode", .str s.mode.name),
    ("game_over_reason", .optionalText (s.reason.map (·.name))),
    ("countdown", .orNone .int s.countdown),
    ("active_challenge", .orNone (challengeView s.hints) s.active),
    ("test_results", .list (s.results.map (·.document))),
    ("solved", .texts (sortedTexts s.solved)), ("high_score", .int shot.highScore),
    ("user_id", .optionalText shot.user), ("ticks", .int s.ticks),
    ("version", .int shot.version)]

end Snapshot
end ScriptArena.Arena
