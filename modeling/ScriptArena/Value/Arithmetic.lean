import ScriptArena.Number.Complex
import ScriptArena.Script.Tree
import ScriptArena.Value.Text

namespace ScriptArena

inductive Numbers where
  | ints (a b : Int)
  | floats (a b : Float)
  | complexes (a b : Number.Complex)

namespace Numbers

def toFloat (n : Int) : Except Trouble Float :=
  match Number.Binary64.ofInt? n with
  | some x => .ok x
  | none => .error (.failure .floatTooSmallForInt)

def realPart : Value → Option (Except Trouble Float)
  | .float x => some (.ok x.value)
  | v => v.int?.map toFloat

def complexOf : Value → Option (Except Trouble Number.Complex)
  | .complex re im => some (.ok ⟨re, im⟩)
  | v => (realPart v).map (·.map fun x => ⟨x, 0.0⟩)

-- None if one operand is no number.
def meet? (a b : Value) : Option (Except Trouble Numbers) :=
  match a.int?, b.int? with
  | some m, some n => some (.ok (.ints m n))
  | _, _ =>
    match a, b with
    | .complex .., _ | _, .complex .. => do
      let x ← complexOf a
      let y ← complexOf b
      return do return .complexes (← x) (← y)
    | _, _ => do
      let x ← realPart a
      let y ← realPart b
      return do return .floats (← x) (← y)

end Numbers

def complexValue (c : Number.Complex) : Value := .ofComplex c.re c.im

-- Is a float a whole number that two does not divide?
def isOddFloat (x : Float) : Bool := Number.Binary64.remainder x.abs 2.0 == 1.0

def complexPower (a b : Number.Complex) : Except Trouble Value :=
  match a.pow b with
  | .ok c => .ok (complexValue c)
  | .error .zeroBase => .error (.raised .zeroDivision "0.0 to a negative or complex power")
  | .error .range => .error (.raised .overflow "complex exponentiation")

-- Powers of floats: the cases at zero, one, infinity and NaN are settled before computing. A
-- negative base with a fractional exponent has a complex power.
def floatPower (x y : Float) : Except Trouble Value :=
  if y == 0.0 then .ok (.ofFloat 1.0)
  else if x.isNaN then .ok (.ofFloat x)
  else if y.isNaN then .ok (.ofFloat (if x == 1.0 then 1.0 else y))
  else if y.isInf then
    let size := x.abs
    if size == 1.0 then .ok (.ofFloat 1.0)
    else if (0.0 < y) == (1.0 < size) then .ok (.ofFloat y.abs)
    else .ok (.ofFloat 0.0)
  else if x.isInf then
    let odd := isOddFloat y
    if 0.0 < y then .ok (.ofFloat (if odd then x else x.abs))
    else .ok (.ofFloat (if odd then Number.Binary64.copySign 0.0 x else 0.0))
  else if x == 0.0 then
    if y < 0.0 then .error (.raised .zeroDivision "0.0 cannot be raised to a negative power")
    else .ok (.ofFloat (if isOddFloat y then x else 0.0))
  else if x < 0.0 && !(y == y.floor) then complexPower ⟨x, 0.0⟩ ⟨y, 0.0⟩
  else
    let negate := x < 0.0 && isOddFloat y
    let size := x.abs
    let r := if size == 1.0 then 1.0 else Float.pow size y
    if r.isInf then .error (.failure .numericRange)
    else .ok (.ofFloat (if negate then -r else r))

def intPower (a b : Int) : Except Trouble Value :=
  if 0 ≤ b then .ok (.int (Int.pow a b.toNat))
  else do floatPower (← Numbers.toFloat a) (← Numbers.toFloat b)

-- The quotient of integers is rounded once, from its exact value.
def trueQuotient (a b : Int) : Except Trouble Value :=
  if b = 0 then .error (.failure .division)
  else
    let x := Number.Binary64.nearest ((a < 0) != (b < 0)) a.natAbs b.natAbs
    if x.isInf then .error (.raised .overflow "integer division result too large for a float")
    else .ok (.ofFloat x)

def Numbers.add : Numbers → Except Trouble Value
  | .ints a b => .ok (.int (a + b))
  | .floats a b => .ok (.ofFloat (a + b))
  | .complexes a b => .ok (.ofComplex (a.re + b.re) (a.im + b.im))

def Numbers.sub : Numbers → Except Trouble Value
  | .ints a b => .ok (.int (a - b))
  | .floats a b => .ok (.ofFloat (a - b))
  | .complexes a b => .ok (.ofComplex (a.re - b.re) (a.im - b.im))

def Numbers.mul : Numbers → Except Trouble Value
  | .ints a b => .ok (.int (a * b))
  | .floats a b => .ok (.ofFloat (a * b))
  | .complexes a b => .ok (complexValue (a.mul b))

def Numbers.div : Numbers → Except Trouble Value
  | .ints a b => trueQuotient a b
  | .floats a b => if b == 0.0 then .error (.failure .floatDivision) else .ok (.ofFloat (a / b))
  | .complexes a b =>
    match a.div? b with
    | some c => .ok (complexValue c)
    | none => .error (.raised .zeroDivision "complex division by zero")

-- Complex numbers have no order, so they have no quotient that is rounded down.
def Numbers.floorDiv? : Numbers → Option (Except Trouble Value)
  | .ints a b =>
    some (if b = 0 then .error (.failure .integerDivision) else .ok (.int (a.fdiv b)))
  | .floats a b =>
    some (if b == 0.0 then .error (.failure .floatFloorDivision)
      else .ok (.ofFloat (Number.Binary64.floorQuotient a b)))
  | .complexes .. => none

def Numbers.mod? : Numbers → Option (Except Trouble Value)
  | .ints a b =>
    some (if b = 0 then .error (.failure .integerModulo) else .ok (.int (a.fmod b)))
  | .floats a b =>
    some (if b == 0.0 then .error (.failure .floatModulo)
      else .ok (.ofFloat (Number.Binary64.modulo a b)))
  | .complexes .. => none

def Numbers.pow : Numbers → Except Trouble Value
  | .ints a b => intPower a b
  | .floats a b => floatPower a b
  | .complexes a b => complexPower a b

namespace Value

def negate : Value → Except Trouble Value
  | .float x => .ok (.ofFloat (-x.value))
  | .complex re im => .ok (.ofComplex (-re.value) (-im.value))
  | v => match v.int? with
    | some n => .ok (.int (-n))
    | Option.none => .error (.failure (.badOperand "unary -" v.typeName))

def posit : Value → Except Trouble Value
  | v@(.float _) | v@(.complex ..) => .ok v
  | v => match v.int? with
    | some n => .ok (.int n)
    | Option.none => .error (.failure (.badOperand "unary +" v.typeName))

def magnitude : Value → Except Trouble Value
  | .float x => .ok (.ofFloat x.value.abs)
  | .complex re im =>
    let r := Number.Complex.hypot re im
    if r.isInf && !re.value.isInf && !im.value.isInf then
      .error (.raised .overflow "absolute value too large")
    else .ok (.ofFloat r)
  | v => match v.int? with
    | some n => .ok (.int n.natAbs)
    | Option.none => .error (.failure (.badOperand "abs()" v.typeName))

end Value
end ScriptArena
