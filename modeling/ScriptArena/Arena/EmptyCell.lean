import ScriptArena.Arena.Grid
import ScriptArena.Arena.Refusal

namespace ScriptArena.Arena

-- Are there fewer occupied cells than cells?
def hasRoom (occupied : List Position) (size : Int) : Bool :=
  occupied.eraseDups.length < size * size

-- The column is drawn before the row.
def drawCell (size : Int) (source : Draw.Source) :
    Except Draw.Failure (Position × Draw.Source) := do
  let (x, source) ← source.below size
  let (y, source) ← source.below size
  return (⟨x, y⟩, source)

-- The first drawn cell that is free.
def searchCell (occupied : List Position) (size : Int) :
    Nat → Draw.Source → Except Draw.Failure (Position × Draw.Source)
  | 0, _ => .error .exhausted
  | fuel + 1, source => do
    let (cell, source) ← drawCell size source
    if occupied.contains cell then searchCell occupied size fuel source else return (cell, source)

-- On a grid without a free cell nothing is drawn.
def emptyCell (occupied : List Position) (size : Int) (source : Draw.Source) :
    Except Refusal (Position × Draw.Source) :=
  if hasRoom occupied size then
    match searchCell occupied size source.tries source with
    | .ok found => .ok found
    | .error why => .error (.draw why)
  else .error .noEmptyCell

-- Several cells one by one; with `fill`, each is occupied from then on.
def emptyCells (fill : Bool) (size : Int) :
    Nat → List Position → Draw.Source → Except Refusal (List Position)
  | 0, _, _ => .ok []
  | n + 1, occupied, source => do
    let (cell, source) ← emptyCell occupied size source
    let rest ← emptyCells fill size n (if fill then cell :: occupied else occupied) source
    return cell :: rest

theorem drawCell_inBounds {size : Int} {source next : Draw.Source} {cell : Position}
    (drawn : drawCell size source = .ok (cell, next)) : cell.inBounds size = true := by
  simp only [drawCell, bind, Except.bind] at drawn
  cases first : source.below size with
  | error e => simp [first] at drawn
  | ok pair =>
    obtain ⟨x, between⟩ := pair
    cases second : between.below size with
    | error e => simp [first, second] at drawn
    | ok pair =>
      obtain ⟨y, last⟩ := pair
      simp only [first, second, pure, Except.pure, Except.ok.injEq, Prod.mk.injEq] at drawn
      obtain ⟨rfl, rfl⟩ := drawn
      have rangeX := Draw.Source.below_range first
      have rangeY := Draw.Source.below_range second
      simp [Position.inBounds, rangeX, rangeY]

theorem searchCell_free {occupied : List Position} {size : Int} {fuel : Nat}
    {source next : Draw.Source} {cell : Position}
    (found : searchCell occupied size fuel source = .ok (cell, next)) :
    cell ∉ occupied ∧ cell.inBounds size = true := by
  induction fuel generalizing source with
  | zero => simp [searchCell] at found
  | succ fuel ih =>
    simp only [searchCell, bind, Except.bind] at found
    cases drawn : drawCell size source with
    | error e => simp [drawn] at found
    | ok pair =>
      obtain ⟨p, between⟩ := pair
      simp only [drawn] at found
      split at found
      · exact ih found
      · rename_i free
        simp only [pure, Except.pure, Except.ok.injEq, Prod.mk.injEq] at found
        obtain ⟨rfl, rfl⟩ := found
        exact ⟨by simpa using free, drawCell_inBounds drawn⟩

theorem emptyCell_free {occupied : List Position} {size : Int} {source next : Draw.Source}
    {cell : Position} (found : emptyCell occupied size source = .ok (cell, next)) :
    cell ∉ occupied ∧ cell.inBounds size = true := by
  unfold emptyCell at found
  split at found
  · cases searched : searchCell occupied size source.tries source with
    | error e => simp [searched] at found
    | ok pair =>
      simp only [searched, Except.ok.injEq] at found
      subst found
      exact searchCell_free searched
  · cases found

end ScriptArena.Arena
