import ScriptArena.Number.Numeral

namespace ScriptArena.Number

-- What a 64 bit float holds: `finite neg m e` is `m * 2 ^ e`, negated if `neg`.
inductive Decoded where
  | nan
  | infinite (neg : Bool)
  | finite (neg : Bool) (m : Nat) (e : Int)
deriving Repr, DecidableEq

namespace Binary64

def decode (x : Float) : Decoded :=
  let bits := x.toBits.toNat
  let neg := bits / 0x8000000000000000 = 1
  let field : Nat := bits / 0x10000000000000 % 0x800
  let fraction : Nat := bits % 0x10000000000000
  if field = 2047 then
    if fraction = 0 then .infinite neg else .nan
  else if field = 0 then .finite neg fraction (-1074)
  else .finite neg (0x10000000000000 + fraction) ((field : Int) - 1075)

-- The float with the given sign, exponent field and fraction.
def assemble (neg : Bool) (field fraction : Nat) : Float :=
  Float.ofBits (UInt64.ofNat ((if neg then 0x8000000000000000 else 0) + field * 0x10000000000000 + fraction))

def infinity (neg : Bool) : Float := assemble neg 2047 0

def zero (neg : Bool) : Float := assemble neg 0 0

-- Pack a rounded mantissa below or at `2 ^ 53` whose unit is `2 ^ e`, `e ≥ -1074`.
def pack (neg : Bool) (m : Nat) (e : Int) : Float :=
  let (m, e) := if m = 0x20000000000000 then (0x10000000000000, e + 1) else (m, e)
  if m < 0x10000000000000 then assemble neg 0 m
  else if 971 < e then infinity neg
  else assemble neg (e + 1075).toNat (m - 0x10000000000000)

-- `num / den` over the unit `2 ^ e`, as a fraction.
def scaled (num den : Nat) (e : Int) : Nat × Nat :=
  if 0 ≤ e then (num, den * Nat.pow 2 e.toNat) else (num * Nat.pow 2 (-e).toNat, den)

-- The float nearest to `num / den`; a half goes to the even mantissa, and what is too
-- large for a finite float becomes infinite.
def nearest (neg : Bool) (num den : Nat) : Float :=
  if num = 0 then zero neg
  else
    let e : Int := max ((num.log2 : Int) - (den.log2 : Int) - 53) (-1074)
    let (n, d) := scaled num den e
    if n / d < 0x20000000000000 then pack neg (roundHalfEven n d) e
    else
      let (n, d) := scaled num den (e + 1)
      pack neg (roundHalfEven n d) (e + 1)

-- The float nearest to an integer; none if it is too large for a finite one.
def ofInt? (n : Int) : Option Float :=
  let x := nearest (n < 0) n.natAbs 1
  if x.isInf then none else some x

def ofDecimal (neg : Bool) (digits : Nat) (exponent : Int) : Float :=
  -- Beyond these exponents the answer is certain, whatever the digits.
  if digits = 0 then zero neg
  else
    let size : Int := (Nat.log2 digits : Int) / 4 + exponent
    if 400 < size then infinity neg
    else if exponent < -400 ∧ (Nat.log2 digits : Int) / 3 + 1 + exponent < -400 then zero neg
    else if 0 ≤ exponent then nearest neg (digits * Nat.pow 10 exponent.toNat) 1
    else nearest neg digits (Nat.pow 10 (-exponent).toNat)

def isFinite (x : Float) : Bool :=
  match decode x with
  | .finite .. => true
  | _ => false

-- The sign bit, which zeros and infinities have too.
def signBit (x : Float) : Bool := x.toBits.toNat / 0x8000000000000000 = 1

-- The integer part of a finite float: what is left of the point, toward zero.
def truncate? (x : Float) : Option Int :=
  match decode x with
  | .finite neg m e =>
    let n : Nat := if 0 ≤ e then m * Nat.pow 2 e.toNat else m / Nat.pow 2 (-e).toNat
    some (if neg then -(n : Int) else n)
  | _ => none

-- The integer that a float equals, if it equals one.
def integer? (x : Float) : Option Int :=
  match decode x with
  | .finite neg m e =>
    if 0 ≤ e then some (if neg then -(m * Nat.pow 2 e.toNat : Nat) else (m * Nat.pow 2 e.toNat : Nat))
    else if m % Nat.pow 2 (-e).toNat = 0 then
      some (if neg then -(m / Nat.pow 2 (-e).toNat : Nat) else (m / Nat.pow 2 (-e).toNat : Nat))
    else none
  | _ => none

-- The order of an integer and a float, by their exact values; none for a NaN.
def compareInt (n : Int) (x : Float) : Option Ordering :=
  match decode x with
  | .nan => none
  | .infinite neg => some (if neg then .gt else .lt)
  | .finite neg m e =>
    let signedMantissa : Int := if neg then -(m : Int) else m
    some (if 0 ≤ e then compare n (signedMantissa * Nat.pow 2 e.toNat)
      else compare (n * Nat.pow 2 (-e).toNat) signedMantissa)

-- The remainder of the division that rounds toward zero, which is exact; the sign is that
-- of the dividend.
def remainder (x y : Float) : Float :=
  match decode x, decode y with
  | .nan, _ | _, .nan | .infinite _, _ => 0.0 / 0.0
  | .finite .., .infinite _ => x
  | .finite neg m e, .finite _ k f =>
    if k = 0 then 0.0 / 0.0
    else
      let low := min e f
      let r := (m * Nat.pow 2 (e - low).toNat) % (k * Nat.pow 2 (f - low).toNat)
      if r = 0 then zero neg
      else if 0 ≤ low then nearest neg (r * Nat.pow 2 low.toNat) 1
      else nearest neg r (Nat.pow 2 (-low).toNat)

def copySign (x y : Float) : Float := if signBit x = signBit y then x else -x

-- The remainder that has the sign of the divisor.
def modulo (x y : Float) : Float :=
  let r := remainder x y
  if r == 0 then copySign 0.0 y
  else if (y < 0) != (r < 0) then r + y else r

-- The quotient rounded down, as floats compute it from the remainder.
def floorQuotient (x y : Float) : Float :=
  let r := remainder x y
  let q := (x - r) / y
  let q := if !(r == 0) && (y < 0) != (r < 0) then q - 1.0 else q
  if q == 0 then copySign 0.0 (x / y)
  else
    let down := q.floor
    if q - down > 0.5 then down + 1.0 else down

end Binary64
end ScriptArena.Number
