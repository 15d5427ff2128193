import ScriptArena.Number.Shortest

namespace ScriptArena.Number

inductive FloatStyle where
  | fixed | exponent | general | shortest
deriving Repr, DecidableEq

-- How a float is written. `alternate` keeps a point that nothing follows; `keepPoint` gives
-- whole numbers one digit behind the point; `plainZero` takes the sign off a zero.
structure FloatForm where
  style : FloatStyle
  precision : Nat
  upper : Bool
  alternate : Bool
  keepPoint : Bool
  plainZero : Bool

-- Significant digits and the place of the point: it stands behind the first `point` of them.
structure Significant where
  digits : List Char
  point : Int

-- `m * 2 ^ e` as a fraction.
def fraction (m : Nat) (e : Int) : Nat × Nat :=
  if 0 ≤ e then (m * Nat.pow 2 e.toNat, 1) else (m, Nat.pow 2 (-e).toNat)

-- The multiple of `10 ^ k` that is nearest to `num / den`, counted in that unit.
def roundTo (num den : Nat) (k : Int) : Nat :=
  if 0 ≤ k then roundHalfEven num (den * Nat.pow 10 k.toNat)
  else roundHalfEven (num * Nat.pow 10 (-k).toNat) den

-- Exactly `n` significant digits, for `0 < n`.
def significant (m : Nat) (e : Int) (n : Nat) : Significant :=
  if m = 0 then ⟨List.replicate n '0', 1⟩
  else
    let (num, den) := fraction m e
    let top := leadingExponent num den
    let r := roundTo num den (top - n + 1)
    if r = Nat.pow 10 n then ⟨(decimal (Nat.pow 10 (n - 1))).toList, top + 2⟩
    else ⟨(decimal r).toList, top + 1⟩

def padLeft (n : Nat) (cs : List Char) : List Char :=
  List.replicate (n - cs.length) '0' ++ cs

-- `places` digits behind the point.
def fixedText (alternate : Bool) (m : Nat) (e : Int) (places : Nat) : List Char :=
  let (num, den) := fraction m e
  let ds := padLeft (places + 1) (decimal (roundTo num den (-places))).toList
  let whole := ds.take (ds.length - places)
  let rest := ds.drop (ds.length - places)
  whole ++ if rest.isEmpty && !alternate then [] else '.' :: rest

def stripZeros (cs : List Char) : List Char := (cs.reverse.dropWhile (· == '0')).reverse

def withExponent (alternate upper : Bool) (s : Significant) : List Char :=
  let mantissa := match s.digits with
    | [] => ['0']
    | [c] => if alternate then [c, '.'] else [c]
    | c :: rest => c :: '.' :: rest
  mantissa ++ (exponentText (if upper then "E" else "e") 2 (s.point - 1)).toList

-- Digits with the point at its place, and zeros where there are no digits.
def atPlace (alternate keepPoint : Bool) (s : Significant) : List Char :=
  let whole := if s.point ≤ 0 then ['0']
    else s.digits.take s.point.toNat ++
      List.replicate (s.point.toNat - s.digits.length) '0'
  let rest := if s.point ≤ 0 then List.replicate (-s.point).toNat '0' ++ s.digits
    else s.digits.drop s.point.toNat
  if rest.isEmpty then
    whole ++ if keepPoint then ['.', '0'] else if alternate then ['.'] else []
  else whole ++ '.' :: rest

def trimmed (s : Significant) : Significant :=
  match stripZeros s.digits with
  | [] => ⟨['0'], 1⟩
  | ds => ⟨ds, s.point⟩

def generalText (f : FloatForm) (m : Nat) (e : Int) : List Char :=
  let n := max f.precision 1
  let s := significant m e n
  let shown := if f.alternate then s else trimmed s
  if s.point ≤ -4 ∨ (n : Int) - (if f.keepPoint then 1 else 0) < s.point then
    withExponent f.alternate f.upper shown
  else if f.keepPoint && !f.alternate then
    atPlace f.alternate (shown.digits.length ≤ s.point) shown
  else atPlace f.alternate false shown

def shortestText (f : FloatForm) (m : Nat) (e : Int) : List Char :=
  if m = 0 then atPlace f.alternate f.keepPoint ⟨['0'], 1⟩
  else
    let (d, k) := shortest m e
    let ds := (decimal d).toList
    let s : Significant := ⟨ds, ds.length + k⟩
    if s.point ≤ -4 ∨ 16 < s.point then withExponent f.alternate f.upper s
    else atPlace f.alternate f.keepPoint s

def finiteText (f : FloatForm) (m : Nat) (e : Int) : List Char :=
  match f.style with
  | .fixed => fixedText f.alternate m e f.precision
  | .exponent => withExponent f.alternate f.upper (significant m e (f.precision + 1))
  | .general => generalText f m e
  | .shortest => shortestText f m e

-- Do the digits before an exponent all read zero?
def readsZero (cs : List Char) : Bool :=
  (cs.takeWhile fun c => c != 'e' && c != 'E').all fun c => c == '0' || c == '.'

def FloatForm.text (f : FloatForm) (x : Float) : String :=
  match Binary64.decode x with
  | .nan => if f.upper then "NAN" else "nan"
  | .infinite neg => signed neg (if f.upper then "INF" else "inf")
  | .finite neg m e =>
    let cs := finiteText f m e
    signed (neg && !(f.plainZero && readsZero cs)) (String.ofList cs)

end ScriptArena.Number
