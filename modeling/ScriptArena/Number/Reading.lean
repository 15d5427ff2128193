import ScriptArena.Number.Binary64

namespace ScriptArena.Number

def digitsValue (cs : List Char) : Nat := cs.foldl (fun n c => 10 * n + (c.toNat - 48)) 0

def isExponentMark (c : Char) : Bool := c = 'e' || c = 'E'

-- A sign and what is behind it.
def splitSign : List Char → Bool × List Char
  | '-' :: rest => (true, rest)
  | '+' :: rest => (false, rest)
  | cs => (false, cs)

def readExponent? : List Char → Option Int
  | [] => some 0
  | mark :: rest =>
    let (negative, ds) := splitSign rest
    if isExponentMark mark && !ds.isEmpty && ds.all Char.isDigit then
      let n : Int := digitsValue ds
      some (if negative then -n else n)
    else none

def readUnsigned? (negative : Bool) (cs : List Char) : Option Float :=
  let name := (String.ofList cs).toLower
  if name = "inf" ∨ name = "infinity" then some (Binary64.infinity negative)
  else if name = "nan" then some (0.0 / 0.0)
  else
    let whole := cs.takeWhile Char.isDigit
    let behind := cs.dropWhile Char.isDigit
    let (fraction, behind) := match behind with
      | '.' :: rest => (rest.takeWhile Char.isDigit, rest.dropWhile Char.isDigit)
      | rest => ([], rest)
    if whole.isEmpty && fraction.isEmpty then none
    else do
      let exponent ← readExponent? behind
      return Binary64.ofDecimal negative (digitsValue (whole ++ fraction))
        (exponent - fraction.length)

def readFloat? (cs : List Char) : Option Float :=
  let (negative, cs) := splitSign cs
  readUnsigned? negative cs

end ScriptArena.Number
