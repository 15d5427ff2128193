namespace ScriptArena.Text

variable {α : Type} [BEq α]

-- The first place of `part`, counted on from `pos`.
def findPart (part : List α) : List α → Nat → Option Nat
  | [], pos => if part.isEmpty then some pos else none
  | c :: rest, pos =>
    if part.isPrefixOf (c :: rest) then some pos else findPart part rest (pos + 1)

def hasPart (part whole : List α) : Bool := (findPart part whole 0).isSome

-- The last place of `part`.
def findLastPart (part whole : List α) : Option Nat :=
  if whole.length < part.length then none
  else (findPart part.reverse whole.reverse 0).map fun n => whole.length - part.length - n

-- The number of places, taken from the left. `skip` elements still belong to the place before;
-- `seen` places have been counted.
def countParts (part : List α) : List α → Nat → Nat → Nat
  | [], _, seen => seen
  | c :: rest, skip, seen =>
    match skip with
    | n + 1 => countParts part rest n seen
    | 0 =>
      if part.isPrefixOf (c :: rest) then countParts part rest (part.length - 1) (seen + 1)
      else countParts part rest 0 seen

-- An empty part has a place before each element and one at the end.
def countPart (part whole : List α) : Nat :=
  if part.isEmpty then whole.length + 1 else countParts part whole 0 0

-- The pieces between the places of a mark that is not empty, cut at most `cuts` times. The
-- piece at hand and the pieces done are kept in reverse.
def splitAtMark (mark : List α) :
    List α → Nat → Nat → List α → List (List α) → List (List α)
  | [], _, _, piece, done => (piece.reverse :: done).reverse
  | c :: rest, cuts, skip, piece, done =>
    match skip with
    | n + 1 => splitAtMark mark rest cuts n piece done
    | 0 =>
      if 0 < cuts ∧ mark.isPrefixOf (c :: rest) then
        splitAtMark mark rest (cuts - 1) (mark.length - 1) [] (piece.reverse :: done)
      else splitAtMark mark rest cuts 0 (c :: piece) done

def splitMark (mark whole : List α) (cuts : Nat) : List (List α) :=
  splitAtMark mark whole cuts 0 [] []

-- The pieces between runs of elements that `blank` picks, cut at most `cuts` times; after
-- the last cut the blanks behind a piece stay with it.
def splitAtBlanks (blank : α → Bool) : Nat → List α → Nat → List (List α) → List (List α)
  | 0, _, _, done => done.reverse
  | fuel + 1, cs, cuts, done =>
    let cs := cs.dropWhile blank
    if cs.isEmpty then done.reverse
    else if cuts = 0 then (cs :: done).reverse
    else splitAtBlanks blank fuel (cs.dropWhile (!blank ·)) (cuts - 1)
      (cs.takeWhile (!blank ·) :: done)

def splitBlanks (blank : α → Bool) (whole : List α) (cuts : Nat) : List (List α) :=
  splitAtBlanks blank (whole.length + 1) whole cuts []

end ScriptArena.Text
