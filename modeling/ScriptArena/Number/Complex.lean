import ScriptArena.Number.Binary64

namespace ScriptArena.Number

structure Complex where
  re : Float
  im : Float

namespace Complex

def mul (a b : Complex) : Complex :=
  ⟨a.re * b.re - a.im * b.im, a.re * b.im + a.im * b.re⟩

-- The quotient; none for a divisor of zero. The larger part of the divisor is divided out first.
def div? (a b : Complex) : Option Complex :=
  if b.im.abs ≤ b.re.abs then
    if b.re.abs == 0.0 then none
    else
      let ratio := b.im / b.re
      let denom := b.re + b.im * ratio
      some ⟨(a.re + a.im * ratio) / denom, (a.im - a.re * ratio) / denom⟩
  else if b.re.abs ≤ b.im.abs then
    let ratio := b.re / b.im
    let denom := b.re * ratio + b.im
    some ⟨(a.re * ratio + a.im) / denom, (a.im * ratio - a.re) / denom⟩
  else some ⟨0.0 / 0.0, 0.0 / 0.0⟩

-- Newton's iteration from above for the integer square root.
def isqrtFrom (n : Nat) : Nat → Nat → Nat
  | 0, x => x
  | fuel + 1, x =>
    let y := (x + n / x) / 2
    if y < x then isqrtFrom n fuel y else x

def isqrt (n : Nat) : Nat := if n = 0 then 0 else isqrtFrom n 2000 (Nat.pow 2 (n.log2 / 2 + 1))

-- The float nearest to the length of a pair; sixty bits below the leading one and a sticky
-- bit decide the rounding.
def hypot (x y : Float) : Float :=
  match Binary64.decode x, Binary64.decode y with
  | .infinite _, _ | _, .infinite _ => Binary64.infinity false
  | .nan, _ | _, .nan => 0.0 / 0.0
  | .finite _ m e, .finite _ k f =>
    if m = 0 then y.abs else if k = 0 then x.abs
    else
      let low := min e f
      let n := Nat.pow (m * Nat.pow 2 (e - low).toNat) 2 + Nat.pow (k * Nat.pow 2 (f - low).toNat) 2
      let s := isqrt (n * Nat.pow 2 128)
      -- An inexact root lies strictly between two neighbours of the grid.
      let doubled := 2 * s + if s * s = n * Nat.pow 2 128 then 0 else 1
      let unit := low - 65
      if 0 ≤ unit then Binary64.nearest false (doubled * Nat.pow 2 unit.toNat) 1
      else Binary64.nearest false doubled (Nat.pow 2 (-unit).toNat)

inductive PowerFault where
  | zeroBase
  | range

def powNat (x : Complex) (n : Nat) : Complex :=
  go n.log2.succ n x ⟨1.0, 0.0⟩
where
  go : Nat → Nat → Complex → Complex → Complex
    | 0, _, _, r => r
    | fuel + 1, n, p, r =>
      if n = 0 then r
      else go fuel (n / 2) (p.mul p) (if n % 2 = 1 then r.mul p else r)

-- Small whole exponents are powers by squaring; others go through the polar form.
def pow (a b : Complex) : Except PowerFault Complex := do
  let result ←
    if b.im == 0.0 && b.re == b.re.floor && b.re.abs ≤ 100.0 then
      let n := b.re.abs.toUInt64.toNat
      if 0.0 < b.re then pure (powNat a n)
      else match div? ⟨1.0, 0.0⟩ (powNat a n) with
        | some r => pure r
        | none => throw .zeroBase
    else if a.re == 0.0 && a.im == 0.0 then
      if !(b.im == 0.0) || b.re < 0.0 then throw .zeroBase else pure ⟨0.0, 0.0⟩
    else
      let size := hypot a.re a.im
      let at_ := Float.atan2 a.im a.re
      let len := Float.pow size b.re
      let phase := at_ * b.re
      let (len, phase) :=
        if b.im == 0.0 then (len, phase)
        else (len / Float.exp (at_ * b.im), phase + b.im * Float.log size)
      pure ⟨len * Float.cos phase, len * Float.sin phase⟩
  if result.re.isInf || result.im.isInf then throw .range
  return result

end Complex
end ScriptArena.Number
