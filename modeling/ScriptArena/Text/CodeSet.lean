namespace ScriptArena.Text

-- The value of a hexadecimal word; other characters count as zero.
def hexValue (word : List Char) : Nat :=
  word.foldl (fun n c => n * 16 + hexDigit c) 0
where
  hexDigit (c : Char) : Nat :=
    if '0' ≤ c ∧ c ≤ '9' then c.toNat - 48
    else if 'A' ≤ c ∧ c ≤ 'F' then c.toNat - 55
    else if 'a' ≤ c ∧ c ≤ 'f' then c.toNat - 87
    else 0

structure Span where
  first : Nat
  last : Nat
deriving Repr, DecidableEq

namespace Span

def contains (s : Span) (code : Nat) : Bool := s.first ≤ code && code ≤ s.last

-- `41-5A` is a span, `AA` the span of one code point.
def ofWord (word : String) : Span :=
  let cs := word.toList
  let first := hexValue (cs.takeWhile (· != '-'))
  match cs.dropWhile (· != '-') with
  | _ :: last => ⟨first, hexValue last⟩
  | [] => ⟨first, first⟩

end Span

-- The words of a table, which are separated by blanks and line ends.
def tableWords (table : String) : List String :=
  ((table.replace "\n" " ").splitOn " ").filter (· != "")

structure CodeSet where
  spans : Array Span

namespace CodeSet

def ofTable (table : String) : CodeSet :=
  ⟨((tableWords table).map Span.ofWord).toArray⟩

-- Bisection over the spans with index in `[lo, hi)`.
def search (spans : Array Span) (code lo hi : Nat) : Bool :=
  if _h : lo < hi then
    let mid := (lo + hi) / 2
    match spans[mid]? with
    | none => false
    | some s =>
      if code < s.first then search spans code lo mid
      else if s.last < code then search spans code (mid + 1) hi
      else true
  else false
termination_by hi - lo

def contains (s : CodeSet) (c : Char) : Bool :=
  search s.spans c.toNat 0 s.spans.size

end CodeSet

-- Bisection over a table sorted by its key.
def findKey {α : Type} (table : Array (Nat × α)) (code lo hi : Nat) : Option α :=
  if _h : lo < hi then
    let mid := (lo + hi) / 2
    match table[mid]? with
    | none => none
    | some (key, value) =>
      if code < key then findKey table code lo mid
      else if key < code then findKey table code (mid + 1) hi
      else some value
  else none
termination_by hi - lo

end ScriptArena.Text
