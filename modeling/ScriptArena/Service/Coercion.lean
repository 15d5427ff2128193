import ScriptArena.Document.Json
import ScriptArena.Text.Blank

namespace ScriptArena.Coercion

-- Blanks around a number do not count; the four separators are none.
def isSpace (c : Char) : Bool := Text.isBlank c && !(0x1c ≤ c.toNat && c.toNat ≤ 0x1f)

def trimmed (cs : List Char) : List Char :=
  ((cs.dropWhile isSpace).reverse.dropWhile isSpace).reverse

-- Single underscores between characters are left out; others stay, and spoil the number.
def withoutUnderscores (cs : List Char) : List Char :=
  let apart := (cs.zip (cs.drop 1)).all fun (c, d) => c != '_' || d != '_'
  if cs.head? = some '_' ∨ cs.getLast? = some '_' ∨ !apart then cs else cs.filter (· != '_')

-- A point and zeros at the end add nothing.
def withoutZeroFraction (cs : List Char) : List Char :=
  match cs.dropWhile (· != '.') with
  | '.' :: ds => if ds.all (· == '0') then cs.takeWhile (· != '.') else cs
  | _ => cs

def digits? (cs : List Char) : Option Nat :=
  let cs := withoutUnderscores (withoutZeroFraction cs)
  if !cs.isEmpty && cs.all Char.isDigit then some (Number.digitsValue cs) else none

def textToInt? (s : String) : Option Int :=
  let (negative, cs) := Number.splitSign (trimmed s.toList)
  (digits? cs).map fun (n : Nat) => if negative then -(n : Int) else n

def wholeFloat? (x : Float) : Option Int :=
  if x.isFinite && x.floor == x && x.abs < 9223372036854775808.0 then some x.toInt64.toInt
  else none

def toInt? : Datum → Option Int
  | .int n => some n
  | .bool b => some (if b then 1 else 0)
  | .float x => wholeFloat? x
  | .str s => textToInt? s
  | _ => none

def falseWords : List String := ["0", "off", "f", "false", "n", "no"]
def trueWords : List String := ["1", "on", "t", "true", "y", "yes"]

def wordToBool? (s : String) : Option Bool :=
  if falseWords.contains s.toLower then some false
  else if trueWords.contains s.toLower then some true
  else none

def digitToBool? : Int → Option Bool
  | 0 => some false
  | 1 => some true
  | _ => none

def toBool? : Datum → Option Bool
  | .bool b => some b
  | .int n => digitToBool? n
  | .float x => (wholeFloat? x).bind digitToBool?
  | .str s => wordToBool? s
  | _ => none

def nearestFloat? (n : Int) : Option Float :=
  let x := Number.Binary64.ofDecimal (n < 0) n.natAbs 0
  if x.isInf then none else some x

def toFloat? : Datum → Option Float
  | .float x => some x
  | .int n => nearestFloat? n
  | .bool b => some (if b then 1.0 else 0.0)
  | .str s => Number.readFloat? (withoutUnderscores (trimmed s.toList))
  | _ => none

def toText? : Datum → Option String
  | .str s => some s
  | _ => none

-- Nothing at all, or a datum as `read` reads it.
def orNothing {α : Type} (read : Datum → Option α) : Datum → Option (Option α)
  | .none => some none
  | d => (read d).map some

end ScriptArena.Coercion
