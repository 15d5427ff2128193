import ScriptArena.Text.Blank
import ScriptArena.Text.Digit
import ScriptArena.Value.Text

namespace ScriptArena.IntText

-- Digits of any script and blanks count as the plain ones.
def plainChar (c : Char) : Char :=
  if c.toNat < 127 then c
  else if Text.isBlank c then ' '
  else match Text.decimalValue? c with
    | some d => Number.digitChar d
    | none => '?'

def isBlank (c : Char) : Bool := c = ' ' || ('\t' ≤ c && c ≤ '\r')

def digitValue (c : Char) : Nat :=
  let lower := c.toLower
  if c.isDigit then c.toNat - 48
  else if 'a' ≤ lower ∧ lower ≤ 'z' then lower.toNat - 87
  else 37

-- The base that a numeral names by the letter behind its leading zero.
def namedBase? : List Char → Option Nat
  | '0' :: c :: _ =>
    match c.toLower with
    | 'x' => some 16
    | 'o' => some 8
    | 'b' => some 2
    | _ => none
  | _ => none

-- The base of a numeral, and the numeral without the mark of its base. Base zero is settled by
-- the mark; without one it is ten, but then a leading zero is only good for zero.
def splitBase (base : Nat) (cs : List Char) : Nat × Bool × List Char :=
  let named := namedBase? cs
  let found := if base = 0 then named.getD 10 else base
  let zerosOnly := base = 0 && named.isNone && cs.head? = some '0'
  if named = some found then
    match cs.drop 2 with
    | '_' :: rest => (found, zerosOnly, rest)
    | rest => (found, zerosOnly, rest)
  else (found, zerosOnly, cs)

structure Digits where
  values : List Nat
  wellFormed : Bool
  rest : List Char

def readDigits (base : Nat) : List Char → Bool → List Nat → Digits
  | [], afterDigit, ds => ⟨ds.reverse, afterDigit, []⟩
  | c :: rest, afterDigit, ds =>
    if c = '_' then
      if afterDigit then readDigits base rest false ds else ⟨ds.reverse, false, c :: rest⟩
    else if digitValue c < base then readDigits base rest true (digitValue c :: ds)
    else ⟨ds.reverse, afterDigit, c :: rest⟩

inductive Reading where
  | number (n : Int)
  | tooLong (digits : Nat)
  | malformed
deriving Repr, DecidableEq

-- Bases that are powers of two may have any number of digits.
def isBinary (base : Nat) : Bool := Nat.pow 2 base.log2 = base

def readUnsigned (base : Nat) (negative : Bool) (cs : List Char) : Reading :=
  let (base, zerosOnly, cs) := splitBase base cs
  let ds := readDigits base cs false []
  if !ds.wellFormed then .malformed
  else if !isBinary base && Number.maxDecimalDigits < ds.values.length then
    .tooLong ds.values.length
  else if !ds.rest.all isBlank then .malformed
  else
    let n := ds.values.foldl (fun n d => base * n + d) 0
    if zerosOnly && n ≠ 0 then .malformed
    else .number (if negative then -(n : Int) else n)

def read (base : Nat) (cs : List Char) : Reading :=
  match cs.dropWhile isBlank with
  | '+' :: rest => readUnsigned base false rest
  | '-' :: rest => readUnsigned base true rest
  | cs => readUnsigned base false cs

-- The complaint shows the first part of what was to be read.
def invalid (base : Nat) (shown : String) : Trouble :=
  .value (s!"invalid literal for int() with base {base}: " ++
    String.ofList (shown.toList.take 200))

def result (base : Nat) (shown : String) : Reading → Except Trouble Int
  | .number n => .ok n
  | .tooLong digits => .error (.failure (.tooManyDigitsRead digits))
  | .malformed => .error (invalid base shown)

def ofText (base : Nat) (s : String) : Except Trouble Int :=
  result base (Text.quote s) (read base (s.toList.map plainChar))

def ofBytes (base : Nat) (b : List UInt8) : Except Trouble Int :=
  result base (Text.quoteBytes (b.take 200)) (read base (b.map fun x => Char.ofNat x.toNat))

def ofValue : Value → Except Trouble Int
  | .str s => ofText 10 s
  | .bytes b => ofBytes 10 b
  | .float x =>
    match Number.Binary64.truncate? x with
    | some n => .ok n
    | none =>
      if x.value.isNaN then .error (.value "cannot convert float NaN to integer")
      else .error (.raised .overflow "cannot convert float infinity to integer")
  | v =>
    match v.int? with
    | some n => .ok n
    | none =>
      .error (.type ("int() argument must be a string, a bytes-like object or a real number, " ++
        s!"not '{v.typeName}'"))

-- Only texts are read in a base of choice.
def ofValueInBase (base : Int) (v : Value) : Except Trouble Int :=
  if (base ≠ 0 ∧ base < 2) ∨ 36 < base then
    .error (.value "int() base must be >= 2 and <= 36, or 0")
  else match v with
    | .str s => ofText base.toNat s
    | .bytes b => ofBytes base.toNat b
    | _ => .error (.type "int() can't convert non-string with explicit base")

end ScriptArena.IntText
