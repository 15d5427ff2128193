import ScriptArena.Value.FormatSpec
import ScriptArena.Value.Index

namespace ScriptArena

inductive Medium where
  | text | bytes
deriving Repr, DecidableEq

structure Directive where
  left : Bool
  sign : Bool
  blank : Bool
  alternate : Bool
  zero : Bool
  width : Option Nat
  precision : Option Nat
  kind : Char
deriving Repr

namespace Template

structure Supply where
  mapping : Option Value
  left : List Value

def incomplete : Trouble := .value "incomplete format"

-- Values that are looked into by key.
def isMapping (medium : Medium) : Value → Bool
  | .list _ | .dict _ | .range .. => true
  | .bytes _ => medium = .text
  | _ => false

def Supply.ofValue (medium : Medium) (args : Value) : Supply :=
  { mapping := if isMapping medium args then some args else none
    left := match args with
      | .tuple _ items => items
      | v => [v] }

def Supply.take (s : Supply) : Except Trouble (Value × Supply) :=
  match s.left with
  | v :: rest => .ok (v, { s with left := rest })
  | [] => .error (.type "not enough arguments for format string")

-- The name of a value reaches to the bracket that closes it.
def readName : Nat → List Char → List Char → Except Trouble (List Char × List Char)
  | _, [], _ => .error (.value "incomplete format key")
  | nested, c :: rest, name =>
    match c, nested with
    | ')', 0 => .ok (name.reverse, rest)
    | ')', n + 1 => readName n rest (c :: name)
    | '(', n => readName (n + 1) rest (c :: name)
    | _, n => readName n rest (c :: name)

def nameValue (medium : Medium) (name : List Char) : Value :=
  match medium with
  | .text => .str (String.ofList name)
  | .bytes => .bytes (name.map fun c => c.toNat.toUInt8)

def lookUp (h : Heap) (medium : Medium) (name : List Char) (s : Supply) :
    Except Trouble Supply :=
  match s.mapping with
  | none => .error (.type "format requires a mapping")
  | some m => do
    match ← m.getItem h (.item (nameValue medium name)) with
    | .value v => return { s with left := [v] }
    | .list _ | .set _ => throw incomplete

-- A bracket asks for a mapping before its end is looked for.
def readSource (h : Heap) (medium : Medium) (s : Supply) :
    List Char → Except Trouble (Supply × List Char)
  | '(' :: rest =>
    if s.mapping.isNone then .error (.type "format requires a mapping")
    else do
      let (name, rest) ← readName 0 rest []
      return (← lookUp h medium name s, rest)
  | cs => .ok (s, cs)

def isFlag (c : Char) : Bool := c = '-' || c = '+' || c = ' ' || c = '#' || c = '0'

def readDigits (limit : Nat) (complaint : String) : List Char → Nat →
    Except Trouble (Nat × List Char)
  | [], n => .ok (n, [])
  | c :: rest, n =>
    if c.isDigit then
      let n := n * 10 + (c.toNat - 48)
      if limit < n then .error (.value complaint) else readDigits limit complaint rest n
    else .ok (n, c :: rest)

-- A star takes the number from the values.
def takeNumber (s : Supply) : Except Trouble (Int × Supply) := do
  let (v, s) ← s.take
  match v.int? with
  | none => throw (.type "* wants int")
  | some n =>
    if fitsIndex n then return (n, s)
    else throw (.raised .overflow "Python int too large to convert to C ssize_t")

def readWidth (s : Supply) : List Char → Except Trouble (Option Int × Supply × List Char)
  | '*' :: rest => do
    let (n, s) ← takeNumber s
    return (some n, s, rest)
  | c :: rest =>
    if c.isDigit then do
      let (n, rest) ← readDigits (0x8000000000000000 - 1) "width too big" (c :: rest) 0
      return (some n, s, rest)
    else .ok (none, s, c :: rest)
  | [] => .ok (none, s, [])

def readPrecision (medium : Medium) (s : Supply) :
    List Char → Except Trouble (Option Nat × Supply × List Char)
  | '.' :: '*' :: rest => do
    let (n, s) ← takeNumber s
    return (some n.toNat, s, rest)
  | '.' :: rest => do
    let complaint := if medium = .text then "precision too big" else "prec too big"
    let (n, rest) ← readDigits (0x80000000 - 1) complaint rest 0
    return (some n, s, rest)
  | cs => .ok (none, s, cs)

-- A size letter before the kind says nothing.
def skipSize : List Char → List Char
  | c :: rest => if c = 'h' || c = 'l' || c = 'L' then rest else c :: rest
  | [] => []

def readDirective (h : Heap) (medium : Medium) (s : Supply) (cs : List Char) :
    Except Trouble (Directive × Supply × List Char) := do
  let (s, cs) ← readSource h medium s cs
  let flags := cs.takeWhile isFlag
  let (width, s, cs) ← readWidth s (cs.dropWhile isFlag)
  let (precision, s, cs) ← readPrecision medium s cs
  match skipSize cs with
  | [] => throw incomplete
  | kind :: rest =>
    return ({ left := flags.contains '-' || (width.getD 0 < 0)
              sign := flags.contains '+', blank := flags.contains ' '
              alternate := flags.contains '#', zero := flags.contains '0'
              width := width.map Int.natAbs, precision, kind }, s, rest)

-- The text that a directive stands for, before it is padded. Numbers keep their sign and
-- the mark of their base apart.
structure Shown where
  numeric : Bool
  negative : Bool
  marker : List Char
  body : List Char

def Shown.plain (body : List Char) : Shown := ⟨false, false, [], body⟩

def Shown.cut (d : Directive) (body : List Char) : Shown :=
  .plain (match d.precision with
    | some n => body.take n
    | none => body)

def isBased (kind : Char) : Bool := kind = 'o' || kind = 'x' || kind = 'X'

-- Floats give up what follows the point, except where digits of another base are asked for.
def wholeNumber (kind : Char) (v : Value) : Except Trouble Int :=
  let refuse (wanted : String) : Except Trouble Int :=
    .error (.type ("%" ++ String.ofList [kind] ++ " format: " ++ wanted ++ " is required, not " ++
      v.typeName))
  match v.int? with
  | some n => .ok n
  | none =>
    if isBased kind then refuse "an integer"
    else match v with
      | .float x =>
        match Number.Binary64.truncate? x with
        | some n => .ok n
        | none =>
          if x.value.isNaN then .error (.value "cannot convert float NaN to integer")
          else .error (.raised .overflow "cannot convert float infinity to integer")
      | _ => refuse "a real number"

def showInteger (d : Directive) (v : Value) : Except Trouble Shown := do
  let n ← wholeNumber d.kind v
  let base := if d.kind = 'o' then 8 else if isBased d.kind then 16 else 10
  let digits ← FormatSpec.digitsOf base n
  let digits := if d.kind = 'X' then digits.map Char.toUpper else digits
  return ⟨true, n < 0, if d.alternate && isBased d.kind then ['0', d.kind] else [],
    Number.padLeft (d.precision.getD 0) digits⟩

def showFloat (medium : Medium) (d : Directive) (v : Value) : Except Trouble Shown := do
  let x ← match Numbers.realPart v with
    | some x => x
    | none => throw (.type (if medium = .text then "must be real number, not " ++ v.typeName
        else "float argument required, not " ++ v.typeName))
  let lower := d.kind.toLower
  let form : Number.FloatForm := {
    style := if lower = 'e' then .exponent else if lower = 'f' then .fixed else .general
    precision := d.precision.getD 6, upper := d.kind.isUpper, alternate := d.alternate
    keepPoint := false, plainZero := false }
  let parts := FormatSpec.Parts.ofFloatText (form.text x)
  return ⟨true, parts.negative, [], parts.digits ++ parts.rest⟩

def showChar (v : Value) : Except Trouble Shown :=
  match v with
  | .str s =>
    match s.toList with
    | [c] => .ok (.plain [c])
    | _ => .error (.type "%c requires int or char")
  | v => match v.int? with
    | none => .error (.type "%c requires int or char")
    | some n =>
      if 0 ≤ n ∧ n < 0x110000 then .ok (.plain [Char.ofNat n.toNat])
      else .error (.raised .overflow "%c arg not in range(0x110000)")

def showByte (v : Value) : Except Trouble Shown :=
  let refuse : Except Trouble Shown :=
    .error (.type "%c requires an integer in range(256) or a single byte")
  match v with
  | .bytes [b] => .ok (.plain [Char.ofNat b.toNat])
  | v => match v.int? with
    | none => refuse
    | some n =>
      if 0 ≤ n ∧ n < 256 then .ok (.plain [Char.ofNat n.toNat])
      else .error (.raised .overflow "%c arg not in range(256)")

def showBytes (d : Directive) (v : Value) : Except Trouble Shown :=
  match v with
  | .bytes b => .ok (.cut d (b.map fun x => Char.ofNat x.toNat))
  | v => .error (.type ("%b requires a bytes-like object, or an object that implements " ++
      s!"__bytes__, not '{v.typeName}'"))

def unknownKind (kind : Char) (index : Nat) : Trouble :=
  let shown := if 31 ≤ kind.toNat ∧ kind.toNat ≤ 126 then kind else '?'
  .value (s!"unsupported format character '{String.ofList [shown]}' " ++
    s!"(0x{Number.numeral 16 kind.toNat}) at index {index}")

def showValue (h : Heap) (medium : Medium) (d : Directive) (index : Nat) (v : Value) :
    Except Trouble Shown :=
  match medium, d.kind with
  | .text, 's' => do return .cut d (← v.text h).toList
  | .text, 'r' => do return .cut d (← v.quoted h).toList
  | .bytes, 's' | .bytes, 'b' => showBytes d v
  | .text, 'a' | .bytes, 'a' | .bytes, 'r' => do return .cut d (← v.asciiQuoted h).toList
  | .text, 'c' => showChar v
  | .bytes, 'c' => showByte v
  | medium, kind =>
    if "diuoxX".toList.contains kind then showInteger d v
    else if "eEfFgG".toList.contains kind then showFloat medium d v
    else .error (unknownKind kind index)

-- Zeros go between sign and digits, blanks go outside.
def Shown.padded (d : Directive) (s : Shown) : List Char :=
  let sign := if !s.numeric then []
    else if s.negative then ['-']
    else if d.sign then ['+']
    else if d.blank then [' ']
    else []
  let front := sign ++ s.marker
  let more := d.width.getD 0 - (front.length + s.body.length)
  if d.left then front ++ s.body ++ List.replicate more ' '
  else if s.numeric && d.zero then front ++ List.replicate more '0' ++ s.body
  else List.replicate more ' ' ++ front ++ s.body

def leftOver (medium : Medium) : Trouble :=
  .type (if medium = .text then "not all arguments converted during string formatting"
    else "not all arguments converted during bytes formatting")

def fill (h : Heap) (medium : Medium) (size : Nat) :
    Nat → List Char → Supply → List (List Char) → Except Trouble (List (List Char))
  | 0, _, _, done => .ok done
  | _ + 1, [], s, done =>
    if !s.left.isEmpty && s.mapping.isNone then .error (leftOver medium) else .ok done
  | fuel + 1, '%' :: '%' :: rest, s, done => fill h medium size fuel rest s (['%'] :: done)
  | fuel + 1, '%' :: cs, s, done => do
    let (d, s, rest) ← readDirective h medium s cs
    let (v, s) ← s.take
    let shown ← showValue h medium d (size - rest.length - 1) v
    if s.mapping.isSome && !s.left.isEmpty then throw (leftOver medium)
    fill h medium size fuel rest s (shown.padded d :: done)
  | fuel + 1, c :: cs, s, done =>
    let (run, rest) := cs.span (· ≠ '%')
    fill h medium size fuel rest s ((c :: run) :: done)

def render (h : Heap) (medium : Medium) (cs : List Char) (args : Value) :
    Except Trouble (List Char) := do
  return (← fill h medium cs.length (cs.length + 1) cs (Supply.ofValue medium args) []).reverse.flatten

end Template

def formatText (h : Heap) (template : String) (args : Value) : Except Trouble String := do
  return String.ofList (← Template.render h .text template.toList args)

def formatBytes (h : Heap) (template : List UInt8) (args : Value) :
    Except Trouble (List UInt8) := do
  let cs ← Template.render h .bytes (template.map fun b => Char.ofNat b.toNat) args
  return cs.map fun c => c.toNat.toUInt8

end ScriptArena
