import ScriptArena.Number.Binary64
import ScriptArena.Script.Token

namespace ScriptArena.Script

def isDecimalDigit (c : Char) : Bool := '0' ≤ c && c ≤ '9'

def isHexDigit (c : Char) : Bool :=
  isDecimalDigit c || ('a' ≤ c && c ≤ 'f') || ('A' ≤ c && c ≤ 'F')

-- Any character that a name could go on with, judged by its code alone.
def runsOn (c : Char) : Bool := c.isAlphanum || c == '_' || 128 ≤ c.toNat

def digitValue (c : Char) : Nat :=
  if isDecimalDigit c then c.toNat - 48 else if 'a' ≤ c then c.toNat - 87 else c.toNat - 55

-- Groups of digits with single underscores between them; none after a dangling underscore.
def scanDigits (ok : Char → Bool) : List Char → Option (List Char × List Char)
  | [] => some ([], [])
  | c :: rest =>
    if ok c then (scanDigits ok rest).map fun (ds, more) => (c :: ds, more)
    else if c == '_' then
      match rest with
      | d :: tail => if ok d then (scanDigits ok tail).map fun (ds, more) => (d :: ds, more) else none
      | [] => none
    else some ([], c :: rest)

-- The text goes on with this word, and the word ends there.
def startsWord (word : String) (cs : List Char) : Bool :=
  let w := word.toList
  cs.take w.length == w && !((cs.drop w.length).head?.any runsOn)

-- A literal may be followed at once by some operators that are words, by no other letter.
def endsNumber (cs : List Char) : Bool :=
  match cs with
  | [] => true
  | c :: rest =>
    !runsOn c || ["and", "else", "for", "or", "not"].any (startsWord · cs) ||
      (c == 'i' && rest.head?.any fun d => d == 'f' || d == 'n' || d == 's')

def natOf (base : Nat) (digits : List Char) : Nat :=
  digits.foldl (fun n c => n * base + digitValue c) 0

-- Too many decimal digits give no value.
def integerConstant (digits : List Char) : Option Constant :=
  if Number.maxDecimalDigits < digits.length then none else some (.int (natOf 10 digits))

def floatOf (whole fraction : List Char) (exponent : Int) : Float :=
  Number.Binary64.ofDecimal false (natOf 10 (whole ++ fraction)) (exponent - fraction.length)

structure Scanned where
  value : Option Constant
  rest : List Char

-- A whole number in a base that its mark names: `0x1F`. The mark may be followed by an underscore.
def scanBased (base : Nat) (ok : Char → Bool) (cs : List Char) : Option Scanned := do
  let cs := match cs with
    | '_' :: rest => rest
    | _ => cs
  let (digits, rest) ← if cs.head?.any ok then scanDigits ok cs else none
  if rest.head?.any isDecimalDigit then none
  else if endsNumber rest then some ⟨some (.int (natOf base digits)), rest⟩
  else none

-- An exponent mark counts only with digits behind it.
def scanExponent (cs : List Char) : Option (Option Int × List Char) :=
  match cs with
  | e :: rest =>
    if e == 'e' || e == 'E' then
      match rest with
      | s :: d :: _ =>
        if (s == '+' || s == '-') then
          if isDecimalDigit d then
            (scanDigits isDecimalDigit (rest.drop 1)).map fun (ds, more) =>
              let n : Int := natOf 10 ds
              (some (if s == '-' then -n else n), more)
          else none
        else if isDecimalDigit s then
          (scanDigits isDecimalDigit rest).map fun (ds, more) => (some (natOf 10 ds : Int), more)
        else if endsNumber cs then some (none, cs) else none
      | [s] =>
        if isDecimalDigit s then some (some (natOf 10 [s] : Int), [])
        else none
      | [] => none
    else some (none, cs)
  | [] => some (none, [])

-- What may stand after the digits before the point.
def scanTail (whole : List Char) (leadingZero : Bool) (cs : List Char) : Option Scanned := do
  let (fraction, afterPoint) ← match cs with
    | '.' :: rest =>
      if rest.head?.any isDecimalDigit then
        (scanDigits isDecimalDigit rest).map fun (ds, more) => (some ds, more)
      else some (some [], rest)
    | _ => some (none, cs)
  let (exponent, rest) ← scanExponent afterPoint
  let isFloat := fraction.isSome || exponent.isSome
  let value := floatOf whole (fraction.getD []) (exponent.getD 0)
  match rest with
  | j :: more =>
    if j == 'j' || j == 'J' then
      if endsNumber more then some ⟨some (.imaginary value), more⟩ else none
    else finish isFloat value rest
  | [] => finish isFloat value []
where
  finish (isFloat : Bool) (value : Float) (rest : List Char) : Option Scanned :=
    if !endsNumber rest then none
    else if isFloat then some ⟨some (.float value), rest⟩
    else if leadingZero then none
    else some ⟨integerConstant whole, rest⟩

def scanNumber (cs : List Char) : Option Scanned := do
  match cs with
  | '0' :: 'x' :: rest | '0' :: 'X' :: rest => scanBased 16 isHexDigit rest
  | '0' :: 'o' :: rest | '0' :: 'O' :: rest => scanBased 8 (fun c => '0' ≤ c && c ≤ '7') rest
  | '0' :: 'b' :: rest | '0' :: 'B' :: rest => scanBased 2 (fun c => c == '0' || c == '1') rest
  | _ =>
    let (whole, rest) ← scanDigits isDecimalDigit cs
    -- A number that begins with a zero is zero, unless a point or an exponent follows.
    scanTail whole (whole.head? == some '0' && whole.any (· != '0')) rest

end ScriptArena.Script
