import ScriptArena.Value.Compare

namespace ScriptArena.Sorting

variable {α ε : Type}

abbrev Outcome (α ε : Type) := List α × Option ε

abbrev Less (α ε : Type) := α → α → Except ε Bool

-- The length of the leading run that keeps going the way `down` says, after `n` items of it;
-- each item is compared with the one before it.
def runLength (less : Less α ε) (down : Bool) : α → List α → Nat → Except ε Nat
  | _, [], n => .ok n
  | previous, x :: rest, n => do
    if (← less x previous) = down then runLength less down x rest (n + 1) else return n

def leadingRun (less : Less α ε) : List α → Except ε (Nat × Bool)
  | x :: y :: rest => do
    let down ← less y x
    return (← runLength less down y rest 2, down)
  | xs => .ok (xs.length, false)

-- The place of `pivot` in the sorted items between `low` and `high`, behind its equals.
def insertionPlace (less : Less α ε) (sorted : Array α) (pivot : α) :
    Nat → Nat → Nat → Except ε Nat
  | 0, low, _ => .ok low
  | fuel + 1, low, high =>
    if high ≤ low then .ok low
    else
      let mid := low + (high - low) / 2
      match sorted[mid]? with
      | none => .ok low
      | some x => do
        if ← less pivot x then insertionPlace less sorted pivot fuel low mid
        else insertionPlace less sorted pivot fuel (mid + 1) high

def insertAt (xs : Array α) (n : Nat) (x : α) : Array α :=
  xs.extract 0 n ++ #[x] ++ xs.extract n xs.size

def insertEach (less : Less α ε) : Array α → List α → Outcome α ε
  | sorted, [] => (sorted.toList, none)
  | sorted, x :: rest =>
    match insertionPlace less sorted x (sorted.size + 1) 0 sorted.size with
    | .error e => (sorted.toList ++ x :: rest, some e)
    | .ok n => insertEach less (insertAt sorted n x) rest

def merge (less : Less α ε) : Nat → List α → List α → List α → Except ε (List α)
  | 0, xs, ys, done => .ok (done.reverse ++ xs ++ ys)
  | _ + 1, [], ys, done => .ok (done.reverse ++ ys)
  | _ + 1, xs, [], done => .ok (done.reverse ++ xs)
  | fuel + 1, x :: xs, y :: ys, done => do
    if ← less y x then merge less fuel (x :: xs) ys (y :: done)
    else merge less fuel xs (y :: ys) (x :: done)

def mergePairs (less : Less α ε) : List (List α) → Except ε (List (List α))
  | xs :: ys :: rest => do
    return (← merge less (xs.length + ys.length) xs ys []) :: (← mergePairs less rest)
  | runs => .ok runs

def mergeAll (less : Less α ε) : Nat → List (List α) → Except ε (List α)
  | 0, runs => .ok runs.flatten
  | fuel + 1, runs =>
    match runs with
    | [] => .ok []
    | [run] => .ok run
    | runs => do mergeAll less fuel (← mergePairs less runs)

-- The least length of a run: the six leading bits of the size, rounded up.
def leastRun (size : Nat) : Nat :=
  if size < 64 then size
  else
    let shift := Nat.log2 size - 5
    let top := size / Nat.pow 2 shift
    if size % Nat.pow 2 shift = 0 then top else top + 1

-- Sorted runs, each at least as long as asked for, except the last one.
def runs (less : Less α ε) (least : Nat) :
    Nat → List α → List (List α) → List (List α) × List α × Option ε
  | 0, xs, done => (done.reverse, xs, none)
  | fuel + 1, xs, done =>
    if xs.isEmpty then (done.reverse, [], none)
    else match leadingRun less xs with
      | .error e => (done.reverse, xs, some e)
      | .ok (n, down) =>
        let run := if down then (xs.take n).reverse else xs.take n
        let reach := max n (min least xs.length)
        match insertEach less run.toArray ((xs.drop n).take (reach - n)) with
        | (sorted, none) => runs less least fuel (xs.drop reach) (sorted :: done)
        | (reached, some e) => (done.reverse, reached ++ xs.drop reach, some e)

-- Runs that are in order already are found and merged. When a comparison fails, the items stand in the
-- order that they have reached by then.
def sort (less : Less α ε) (xs : List α) : Outcome α ε :=
  if xs.length < 2 then (xs, none)
  else match runs less (leastRun xs.length) xs.length xs [] with
    | (done, rest, some e) => (done.flatten ++ rest, some e)
    | (done, _, none) =>
      match mergeAll less done.length done with
      | .ok sorted => (sorted, none)
      | .error e => (done.flatten, some e)

-- Falling order: equal items keep their order.
def sortFalling (less : Less α ε) (xs : List α) : Outcome α ε :=
  let (ys, e) := sort less xs.reverse
  (ys.reverse, e)

def sortBy (less : Less α ε) (falling : Bool) (xs : List α) : Outcome α ε :=
  if falling then sortFalling less xs else sort less xs

end ScriptArena.Sorting
