import ScriptArena.Run.Limits
import ScriptArena.Text.Search

namespace ScriptArena

-- A value that is there to be spoken about. Nothing of it is there when a program runs.
structure Ghost (α : Type) where
  Is : α → Prop
  single : ∃ a, ∀ b, Is b ↔ b = a

namespace Ghost

variable {α β : Type}

def of (a : α) : Ghost α := ⟨fun b => b = a, a, fun _ => Iff.rfl⟩

def map (f : α → β) (g : Ghost α) : Ghost β where
  Is b := ∃ a, g.Is a ∧ b = f a
  single := by
    obtain ⟨a, only⟩ := g.single
    refine ⟨f a, fun b => ⟨?_, fun same => ⟨a, (only a).mpr rfl, same⟩⟩⟩
    rintro ⟨a', is, rfl⟩
    rw [(only a').mp is]

instance [Inhabited α] : Inhabited (Ghost α) := ⟨of default⟩

theorem is_unique {g : Ghost α} {a b : α} (one : g.Is a) (other : g.Is b) : a = b := by
  obtain ⟨c, only⟩ := g.single
  exact ((only a).mp one).trans ((only b).mp other).symm

end Ghost

structure Transcript where
  lines : Array String := #[]
  pending : String := ""
  truncated : Bool := false
  -- All that was printed, whether it is kept or not.
  printed : Ghost String := .of ""
  -- A text with nothing in it was printed when all lines were used up. Nothing that is run depends on
  -- it.
  idle : Bool := false
deriving Inhabited

namespace Transcript

def isFull (l : Limits) (t : Transcript) : Bool := l.maxOutputLines ≤ t.lines.size

-- The part of a line that is kept. A negative length counts from the end.
def kept (l : Limits) (line : String) : String :=
  let n := if l.maxLineLength < 0 then (line.length + l.maxLineLength).toNat
    else l.maxLineLength.toNat
  String.ofList (line.toList.take n)

def isLong (l : Limits) (line : String) : Bool := l.maxLineLength < line.length

-- A line beyond the last one is lost.
def write (l : Limits) (t : Transcript) (line : String) : Transcript :=
  if t.isFull l then { t with truncated := true }
  else if isLong l line then
    { t with lines := t.lines.push (kept l line), truncated := true }
  else { t with lines := t.lines.push line }

def hold (l : Limits) (t : Transcript) (line : String) : Transcript :=
  if isLong l line then { t with pending := kept l line, truncated := true }
  else { t with pending := line }

-- Lines of a text; what follows the last line break is still open.
def linesOf (text : String) : List String × String :=
  let pieces := Text.splitMark ['\n'] text.toList text.length
  ((pieces.dropLast).map String.ofList, String.ofList (pieces.getLast?.getD []))

-- Put a text behind the open line. Nothing is added once all lines are used up.
def add (l : Limits) (t : Transcript) (text : String) : Transcript :=
  if t.isFull l then { t with truncated := true, idle := t.idle || text.isEmpty }
  else
    let (lines, last) := linesOf (t.pending ++ text)
    (lines.foldl (write l) t).hold l last

def print (l : Limits) (t : Transcript) (text : String) : Transcript :=
  add l { t with printed := t.printed.map (· ++ text) } text

def flush (l : Limits) (t : Transcript) : Transcript :=
  if t.pending.isEmpty then t else { t.write l t.pending with pending := "" }

theorem pending_flush (l : Limits) (t : Transcript) : (t.flush l).pending = "" := by
  unfold flush
  split
  · rename_i none
    simpa using none
  · rfl

end Transcript
end ScriptArena
