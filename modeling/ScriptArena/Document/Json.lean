import ScriptArena.Judge.Answer
import ScriptArena.Number.Reading
import ScriptArena.Number.Shortest
import ScriptArena.Text.Quoted

namespace ScriptArena

namespace Datum

-- A mapping from names.
def object (fields : List (String × Datum)) : Datum :=
  .dict (fields.map fun (name, d) => (.str name, d))

def isNamed (name : String) : Datum × Datum → Bool
  | (.str key, _) => key == name
  | _ => false

def field? (d : Datum) (name : String) : Option Datum :=
  match d with
  | .dict entries => (entries.find? (isNamed name)).map (·.2)
  | _ => Option.none

-- The text that is a datum's key where only texts can be keys.
def keyText : Datum → String
  | .none => "null"
  | .bool b => if b then "true" else "false"
  | .int n => Number.intText n
  | .float x => Number.floatText x
  | .str s => s
  | _ => ""

end Datum

namespace Json

inductive ReadError where
  | malformed
  | tooManyDigits
  | tooDeep
deriving Repr, DecidableEq

abbrev Reading (α : Type) := Except ReadError (α × List Char)

def isSpace (c : Char) : Bool := c = ' ' || c = '\t' || c = '\n' || c = '\r'

def skip (cs : List Char) : List Char := cs.dropWhile isSpace

def hexDigit? (c : Char) : Option Nat :=
  if c.isDigit then some (c.toNat - 48)
  else if 'a' ≤ c ∧ c ≤ 'f' then some (c.toNat - 87)
  else if 'A' ≤ c ∧ c ≤ 'F' then some (c.toNat - 55)
  else none

-- A code unit as four hexadecimal digits.
def unit? : List Char → Option (Nat × List Char)
  | a :: b :: c :: d :: rest => do
    let a ← hexDigit? a
    let b ← hexDigit? b
    let c ← hexDigit? c
    let d ← hexDigit? d
    return (((a * 16 + b) * 16 + c) * 16 + d, rest)
  | _ => none

def isHigh (u : Nat) : Bool := 0xd800 ≤ u && u < 0xdc00
def isLow (u : Nat) : Bool := 0xdc00 ≤ u && u < 0xe000

-- Half of a pair stands for no character by itself.
def unitChar (u : Nat) : Char := if isHigh u || isLow u then '\ufffd' else Char.ofNat u

def joinUnits (high low : Nat) : Char := Char.ofNat (0x10000 + (high - 0xd800) * 0x400 + (low - 0xdc00))

-- The low half that may follow a high one.
def lowUnit? : List Char → Option (Nat × List Char)
  | '\\' :: 'u' :: rest =>
    match unit? rest with
    | some (u, rest) => if isLow u then some (u, rest) else none
    | none => none
  | _ => none

def coded? (cs : List Char) : Option (Char × List Char) := do
  let (u, rest) ← unit? cs
  if isHigh u then
    match lowUnit? rest with
    | some (low, rest) => return (joinUnits u low, rest)
    | none => return (unitChar u, rest)
  else return (unitChar u, rest)

def shortEscape? : Char → Option Char
  | '"' => some '"'
  | '\\' => some '\\'
  | '/' => some '/'
  | 'b' => some '\x08'
  | 'f' => some '\x0c'
  | 'n' => some '\n'
  | 'r' => some '\r'
  | 't' => some '\t'
  | _ => none

def escaped? : List Char → Option (Char × List Char)
  | [] => none
  | c :: rest => if c = 'u' then coded? rest else (shortEscape? c).map (·, rest)

-- The rest of a string behind its opening quote.
def readString : Nat → List Char → List Char → Reading String
  | 0, _, _ => .error .malformed
  | _ + 1, [], _ => .error .malformed
  | fuel + 1, c :: rest, acc =>
    if c = '"' then .ok (String.ofList acc.reverse, rest)
    else if c = '\\' then
      match escaped? rest with
      | some (d, rest) => readString fuel rest (d :: acc)
      | none => .error .malformed
    else if c < ' ' then .error .malformed
    else readString fuel rest (c :: acc)

-- Digits of a whole part: one zero, or any that begin with another digit.
def wholeDigits : List Char → List Char
  | '0' :: _ => ['0']
  | cs => cs.takeWhile Char.isDigit

-- Digits behind a point; none at all means that there is no such part.
def fractionPart : List Char → List Char
  | '.' :: rest =>
    let ds := rest.takeWhile Char.isDigit
    if ds.isEmpty then [] else '.' :: ds
  | _ => []

def exponentPart : List Char → List Char
  | mark :: rest =>
    if Number.isExponentMark mark then
      let sign := match rest with
        | '-' :: _ => ['-']
        | '+' :: _ => ['+']
        | _ => []
      let ds := (rest.drop sign.length).takeWhile Char.isDigit
      if ds.isEmpty then [] else mark :: sign ++ ds
    else []
  | [] => []

def wholeNumber (negative : Bool) (ds : List Char) : Except ReadError Datum :=
  if Number.maxDecimalDigits < ds.length then .error .tooManyDigits
  else
    let n : Int := Number.digitsValue ds
    .ok (.int (if negative then -n else n))

def readDigits (negative : Bool) (cs : List Char) : Reading Datum :=
  let whole := wholeDigits cs
  if whole.isEmpty then .error .malformed
  else
    let rest := cs.drop whole.length
    let fraction := fractionPart rest
    let rest := rest.drop fraction.length
    let exponent := exponentPart rest
    let rest := rest.drop exponent.length
    if fraction.isEmpty && exponent.isEmpty then (wholeNumber negative whole).map (·, rest)
    else match Number.readUnsigned? negative (whole ++ fraction ++ exponent) with
      | some x => .ok (.float x, rest)
      | none => .error .malformed

-- The values that are names.
def names : List (List Char × Datum) :=
  [("null".toList, .none), ("true".toList, .bool true), ("false".toList, .bool false),
   ("NaN".toList, .float (0.0 / 0.0)), ("Infinity".toList, .float (Number.Binary64.infinity false)),
   ("-Infinity".toList, .float (Number.Binary64.infinity true))]

def readPlain (cs : List Char) : Reading Datum :=
  match names.find? fun (name, _) => name.isPrefixOf cs with
  | some (name, d) => .ok (d, cs.drop name.length)
  | none => match cs with
    | '-' :: rest => readDigits true rest
    | cs => readDigits false cs

mutual

-- A value that begins right here, with at most `depth` more open lists and mappings. A value or
-- an item takes one unit of fuel, and two of them at least one character; a string takes a unit
-- for each character.
def readValue : Nat → Nat → List Char → Reading Datum
  | 0, _, _ => .error .malformed
  | fuel + 1, depth, cs =>
    match cs with
    | '"' :: rest => (readString fuel rest []).map fun (s, rest) => (.str s, rest)
    | '[' :: rest =>
      if depth = 0 then .error .tooDeep
      else match skip rest with
        | ']' :: rest => .ok (.list [], rest)
        | rest => readItems fuel (depth - 1) rest []
    | '{' :: rest =>
      if depth = 0 then .error .tooDeep
      else match skip rest with
        | '}' :: rest => .ok (.dict [], rest)
        | rest => readFields fuel (depth - 1) rest []
    | cs => readPlain cs

def readItems : Nat → Nat → List Char → List Datum → Reading Datum
  | 0, _, _, _ => .error .malformed
  | fuel + 1, depth, cs, acc =>
    match readValue fuel depth cs with
    | .error e => .error e
    | .ok (d, rest) =>
      match skip rest with
      | ',' :: rest => readItems fuel depth (skip rest) (d :: acc)
      | ']' :: rest => .ok (.list (d :: acc).reverse, rest)
      | _ => .error .malformed

def readFields : Nat → Nat → List Char → List (Datum × Datum) → Reading Datum
  | 0, _, _, _ => .error .malformed
  | fuel + 1, depth, cs, acc =>
    match cs with
    | '"' :: rest =>
      match readString fuel rest [] with
      | .error e => .error e
      | .ok (name, rest) =>
        match skip rest with
        | ':' :: rest =>
          match readValue fuel depth (skip rest) with
          | .error e => .error e
          | .ok (d, rest) =>
            match skip rest with
            | ',' :: rest => readFields fuel depth (skip rest) ((.str name, d) :: acc)
            | '}' :: rest => .ok (.ofEntries ((.str name, d) :: acc).reverse, rest)
            | _ => .error .malformed
        | _ => .error .malformed
    | _ => .error .malformed

end

-- The datum that a text stands for, if it has at most `depth` lists and mappings open at once.
def read (depth : Nat) (text : String) : Except ReadError Datum := do
  let cs := text.toList
  let (d, rest) ← readValue (2 * cs.length + 2) depth (skip cs)
  if (skip rest).isEmpty then return d else .error .malformed

def unitEscape (u : Nat) : List Char := '\\' :: 'u' :: Text.hexDigits 4 u

def writeChar (c : Char) : List Char :=
  if c = '"' ∨ c = '\\' then ['\\', c]
  else if ' ' ≤ c ∧ c ≤ '~' then [c]
  else if c.toNat < 0x10000 then unitEscape c.toNat
  else
    let high := 0xd800 + (c.toNat - 0x10000) / 0x400
    let low := 0xdc00 + (c.toNat - 0x10000) % 0x400
    unitEscape high ++ unitEscape low

def putChars (out : String) (cs : List Char) : String := cs.foldl String.push out

def putString (out : String) (s : String) : String :=
  (s.toList.foldl (fun out c => putChars out (writeChar c)) (out.push '"')).push '"'

def floatName (x : Float) : String :=
  if x.isNaN then "NaN"
  else if x.isInf then (if x < 0.0 then "-Infinity" else "Infinity")
  else Number.floatText x

mutual

-- The text so far, and behind it the text of a datum.
def put (out : String) : Datum → String
  | .none => out ++ "null"
  | .bool b => out ++ (if b then "true" else "false")
  | .int n => out ++ Number.intText n
  | .float x => out ++ floatName x
  | .str s => putString out s
  | .list items | .tuple items => (putItems (out.push '[') items).push ']'
  | .dict entries => (putEntries (out.push '{') entries).push '}'

def putItems (out : String) : List Datum → String
  | [] => out
  | [d] => put out d
  | d :: rest => putItems ((put out d).push ',') rest

def putEntries (out : String) : List (Datum × Datum) → String
  | [] => out
  | [(k, d)] => put ((putString out k.keyText).push ':') d
  | (k, d) :: rest => putEntries ((put ((putString out k.keyText).push ':') d).push ',') rest

end

def write (d : Datum) : String := put "" d

end Json
end ScriptArena
