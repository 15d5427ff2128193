import ScriptArena.Number.Binary64

namespace ScriptArena.Number

-- The reals that round to `m * 2 ^ e`, over the unit `num / den`: the interval reaches from
-- `low` to `high` and holds its ends iff `closed`; the float itself is at `mid`.
structure Rounding where
  low : Nat
  mid : Nat
  high : Nat
  closed : Bool
  num : Nat
  den : Nat

-- Below a power of two the neighbours are half as far away.
def Rounding.of (m : Nat) (e : Int) : Rounding :=
  let down := if m = 0x10000000000000 ∧ -1074 < e then 1 else 2
  let unit := e - 2
  { low := 4 * m - down, mid := 4 * m, high := 4 * m + 2, closed := m % 2 = 0
    num := if 0 ≤ unit then Nat.pow 2 unit.toNat else 1
    den := if 0 ≤ unit then 1 else Nat.pow 2 (-unit).toNat }

-- Is the point `point * (gridNum / gridDen)` inside?
def Rounding.holds (r : Rounding) (point gridNum gridDen : Nat) : Bool :=
  let p := point * gridNum * r.den
  let low := r.low * r.num * gridDen
  let high := r.high * r.num * gridDen
  if r.closed then low ≤ p && p ≤ high else low < p && p < high

-- Twice the nearer of two neighbours on the grid is decided by the distance from the middle.
def Rounding.lowerIsNearer (r : Rounding) (point gridNum gridDen : Nat) : Bool :=
  let mid := r.mid * r.num * gridDen
  let below := point * gridNum * r.den
  let above := (point + 1) * gridNum * r.den
  mid - below < above - mid || (mid - below = above - mid && point % 2 = 0)

-- The grid of `10 ^ k`.
def grid (k : Int) : Nat × Nat :=
  if 0 ≤ k then (Nat.pow 10 k.toNat, 1) else (1, Nat.pow 10 (-k).toNat)

-- The point of the grid `10 ^ k` that stands for the float, if one of the two neighbours does.
def Rounding.point? (r : Rounding) (k : Int) : Option Nat :=
  let (gridNum, gridDen) := grid k
  let below := (r.mid * r.num * gridDen) / (r.den * gridNum)
  let lower := r.holds below gridNum gridDen
  let upper := r.holds (below + 1) gridNum gridDen
  if lower && upper then
    some (if r.lowerIsNearer below gridNum gridDen then below else below + 1)
  else if lower then some below
  else if upper then some (below + 1)
  else none

-- The position of the leading digit: `10 ^ k ≤ num / den < 10 ^ (k + 1)`.
def leadingExponent (num den : Nat) : Int :=
  let guess : Int := (((num.log2 : Int) - (den.log2 : Int)) * 30103) / 100000
  let fits (k : Int) : Bool := let (a, b) := grid k; a * den ≤ num * b
  if fits (guess + 2) then guess + 2
  else if fits (guess + 1) then guess + 1
  else if fits guess then guess
  else guess - 1

def searchGrids (r : Rounding) (k : Int) : Nat → Nat × Int
  | 0 => ((r.point? k).getD 0, k)
  | more + 1 =>
    match r.point? k with
    | some p => (p, k)
    | none => searchGrids r (k - 1) more

-- Digits `d` and exponent `k` such that `d * 10 ^ k` is the shortest decimal that rounds to
-- `m * 2 ^ e`, for `0 < m`; trailing zeros are taken off the digits.
def shortest (m : Nat) (e : Int) : Nat × Int :=
  let r := Rounding.of m e
  let top := leadingExponent (r.mid * r.num) r.den
  let (d, k) := searchGrids r top 17
  stripZeros 20 d k
where
  stripZeros : Nat → Nat → Int → Nat × Int
    | 0, d, k => (d, k)
    | fuel + 1, d, k => if d % 10 = 0 ∧ d ≠ 0 then stripZeros fuel (d / 10) (k + 1) else (d, k)

-- How a float is laid out: from which exponents on positional notation gives way to an
-- exponent, whether a whole number keeps its point, and the least width of an exponent.
structure Layout where
  lowest : Int
  highest : Int
  keepPoint : Bool
  exponentWidth : Nat

-- The text of a float: positional from 10⁻⁴ up to below 10¹⁶, always with a point or an
-- exponent, and exponents of at least two digits.
def plainLayout : Layout := ⟨-4, 16, true, 2⟩

def exponentText (mark : String) (width : Nat) (k : Int) : String :=
  let digits := decimal k.natAbs
  mark ++ (if k < 0 then "-" else "+") ++
    String.ofList (List.replicate (width - digits.length) '0') ++ digits

-- Digits with a point after the first `whole` of them, padded with zeros on either side.
def positional (digits : List Char) (whole : Int) (keepPoint : Bool) : String :=
  if whole ≤ 0 then
    "0." ++ String.ofList (List.replicate (-whole).toNat '0' ++ digits)
  else
    let n := whole.toNat
    let left := digits.take n ++ List.replicate (n - digits.length) '0'
    let right := digits.drop n
    if right.isEmpty then String.ofList left ++ (if keepPoint then ".0" else "")
    else String.ofList left ++ "." ++ String.ofList right

def layoutDigits (layout : Layout) (d : Nat) (k : Int) : String :=
  let digits := (decimal d).toList
  let whole : Int := digits.length + k
  if layout.lowest < whole ∧ whole ≤ layout.highest then
    positional digits whole layout.keepPoint
  else
    let mantissa := match digits with
      | [] => "0"
      | [c] => String.ofList [c]
      | c :: rest => String.ofList (c :: '.' :: rest)
    mantissa ++ exponentText "e" layout.exponentWidth (whole - 1)

def Layout.text (layout : Layout) (x : Float) : String :=
  match Binary64.decode x with
  | .nan => "nan"
  | .infinite neg => signed neg "inf"
  | .finite neg m e =>
    if m = 0 then signed neg (if layout.keepPoint then "0.0" else "0")
    else
      let (d, k) := shortest m e
      signed neg (layoutDigits layout d k)

def floatText (x : Float) : String := plainLayout.text x

end ScriptArena.Number
