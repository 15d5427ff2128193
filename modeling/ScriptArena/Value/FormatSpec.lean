import ScriptArena.Number.Decimal
import ScriptArena.Text.Digit
import ScriptArena.Value.Arithmetic

namespace ScriptArena

-- Where the padding goes. `inner` pads a number between its sign and its digits.
inductive Alignment where
  | left | right | center | inner
deriving Repr, DecidableEq

def Alignment.ofMark? : Char → Option Alignment
  | '<' => some .left
  | '>' => some .right
  | '^' => some .center
  | '=' => some .inner
  | _ => none

structure FormatSpec where
  fill : Char
  align : Alignment
  sign : Option Char
  plainZero : Bool
  alternate : Bool
  width : Option Nat
  group : Option Char
  precision : Option Nat
  kind : Option Char
deriving Repr

namespace FormatSpec

-- Widths and precisions must fit a signed word of 64 bits. The flag tells whether there were
-- any digits.
def readNumber : List Char → Nat → Bool → Except Trouble (Nat × Bool × List Char)
  | [], n, seen => .ok (n, seen, [])
  | c :: rest, n, seen =>
    match Text.decimalValue? c with
    | none => .ok (n, seen, c :: rest)
    | some d =>
      if 0x8000000000000000 ≤ n * 10 + d then .error (.value "Too many decimal digits in format string")
      else readNumber rest (n * 10 + d) true

def readAlignment : List Char → Option Char × Option Alignment × List Char
  | fill :: mark :: rest =>
    match Alignment.ofMark? mark, Alignment.ofMark? fill with
    | some a, _ => (some fill, some a, rest)
    | none, some a => (none, some a, mark :: rest)
    | none, none => (none, none, fill :: mark :: rest)
  | [mark] =>
    match Alignment.ofMark? mark with
    | some a => (none, some a, [])
    | none => (none, none, [mark])
  | [] => (none, none, [])

-- Take a character off the front if it is the given one.
def skip (mark : Char) : List Char → Bool × List Char
  | c :: rest => if c = mark then (true, rest) else (false, c :: rest)
  | [] => (false, [])

def readSign : List Char → Option Char × List Char
  | c :: rest => if c = ' ' || c = '+' || c = '-' then (some c, rest) else (none, c :: rest)
  | [] => (none, [])

def readGroup (cs : List Char) : Except Trouble (Option Char × List Char) :=
  let both : Trouble := .value "Cannot specify both ',' and '_'."
  let (comma, cs) := skip ',' cs
  match cs with
  | '_' :: rest =>
    if comma then .error both
    else if rest.head? = some ',' then .error both
    else .ok (some '_', rest)
  | cs => .ok (if comma then some ',' else none, cs)

def readPrecision : List Char → Except Trouble (Option Nat × List Char)
  | '.' :: rest => do
    let (n, seen, rest) ← readNumber rest 0 false
    if seen then return (some n, rest)
    else throw (.value "Format specifier missing precision")
  | cs => .ok (none, cs)

-- A presentation kind as messages show it.
def kindText (kind : Char) : String :=
  if 32 < kind.toNat ∧ kind.toNat < 128 then String.ofList [kind]
  else "\\x" ++ Number.numeral 16 kind.toNat

-- Commas group decimal digits; underscores group the digits of other bases as well.
def checkGroup (group kind : Option Char) : Except Trouble Unit :=
  match group, kind with
  | none, _ | some _, none => .ok ()
  | some mark, some kind =>
    if "defgEG%F".toList.contains kind || (mark = '_' && "boxX".toList.contains kind) then .ok ()
    else
      .error (.value s!"Cannot specify '{String.ofList [mark]}' with '{kindText kind}'.")

-- The alignment and the kind are the ones of the type, where the text names none.
def ofText (spec ofType : String) (natural : Alignment) (standard : Option Char) :
    Except Trouble FormatSpec := do
  let (fill, align, cs) := readAlignment spec.toList
  let (sign, cs) := readSign cs
  let (plainZero, cs) := skip 'z' cs
  let (alternate, cs) := skip '#' cs
  let (zeros, cs) := if fill.isNone then skip '0' cs else (false, cs)
  let (width, wide, cs) ← readNumber cs 0 false
  let (group, cs) ← readGroup cs
  let (precision, cs) ← readPrecision cs
  let kind ← match cs with
    | [] => pure none
    | [c] => pure (some c)
    | _ => throw (.value s!"Invalid format specifier '{spec}' for object of type '{ofType}'")
  checkGroup group (kind <|> standard)
  return {
    fill := fill.getD (if zeros then '0' else ' ')
    align := align.getD (if zeros && natural = .right then .inner else natural)
    sign, plainZero, alternate, group, precision, kind
    width := if wide then some width else none }

def unknownKind (kind : Char) (ofType : String) : Trouble :=
  .value s!"Unknown format code '{kindText kind}' for object of type '{ofType}'"

-- Padding on the left and on the right of `size` characters.
def padding (f : FormatSpec) (size : Nat) : Nat × Nat :=
  let more := f.width.getD 0 - size
  match f.align with
  | .left | .inner => (0, more)
  | .right => (more, 0)
  | .center => (more / 2, more - more / 2)

def padded (f : FormatSpec) (cs : List Char) : String :=
  let (left, right) := f.padding cs.length
  String.ofList (List.replicate left f.fill ++ cs ++ List.replicate right f.fill)

-- A number taken apart: the sign, the mark of the base, the digits that may be grouped, and
-- the rest from the point on.
structure Parts where
  negative : Bool
  marker : List Char
  digits : List Char
  rest : List Char

-- Split the text of a float behind its leading digits.
def Parts.ofFloatText (text : String) : Parts :=
  let cs := text.toList
  let negative := cs.head? = some '-'
  let cs := if negative then cs.drop 1 else cs
  ⟨negative, [], cs.takeWhile Char.isDigit, cs.dropWhile Char.isDigit⟩

def signMark (sign : Option Char) (negative : Bool) : List Char :=
  if negative then ['-']
  else match sign with
    | some '+' => ['+']
    | some ' ' => [' ']
    | _ => []

-- Groups of `size` digits from the right, filled up with zeros to `least` characters. The
-- digits come and the characters go in reverse.
def groups (size : Nat) (mark : Char) : Nat → List Char → Int → List Char
  | 0, ds, _ => ds
  | fuel + 1, ds, least =>
    let len : Nat := min size (max (max ds.length least.toNat) 1)
    let now := ds.take len ++ List.replicate (len - ds.length) '0'
    let ds := ds.drop len
    let least := least - len
    if ds.isEmpty && least ≤ 0 then now else now ++ mark :: groups size mark fuel ds (least - 1)

def groupSize (kind : Option Char) : Nat :=
  match kind with
  | some k => if "boxX".toList.contains k then 4 else 3
  | none => 3

-- Zeros before the digits count as digits and are grouped with them.
def groupedDigits (f : FormatSpec) (least : Int) (digits : List Char) : List Char :=
  if digits.isEmpty then []
  else match f.group with
    | none => Number.padLeft least.toNat digits
    | some mark =>
      (groups (groupSize f.kind) mark (digits.length + least.toNat + 1) digits.reverse least).reverse

def zeroFilled (f : FormatSpec) : Bool := f.fill = '0' && f.align = .inner

def number (f : FormatSpec) (p : Parts) : String :=
  let sign := signMark f.sign p.negative
  let around := sign.length + p.marker.length + p.rest.length
  let least : Int := if f.zeroFilled then (f.width.getD 0 : Int) - around else 0
  let body := f.groupedDigits least p.digits ++ p.rest
  let front := sign ++ p.marker
  if f.align = .inner then
    let more := f.width.getD 0 - (front.length + body.length)
    String.ofList (front ++ List.replicate more f.fill ++ body)
  else f.padded (front ++ body)

def ofString (f : FormatSpec) (s : String) : Except Trouble String :=
  match f.kind with
  | some k => if k = 's' then plain else .error (unknownKind k "str")
  | none => plain
where
  plain : Except Trouble String :=
    let refuse (text : String) : Except Trouble String :=
      .error (.value (text ++ " not allowed in string format specifier"))
    if f.sign = some ' ' then refuse "Space"
    else if f.sign.isSome then refuse "Sign"
    else if f.plainZero then refuse "Negative zero coercion (z)"
    else if f.alternate then refuse "Alternate form (#)"
    else if f.align = .inner then refuse "'=' alignment"
    else match f.precision with
      | some n => .ok (f.padded (s.toList.take n))
      | none => .ok (f.padded s.toList)

-- A number as the character of that code.
def character (f : FormatSpec) (n : Int) : Except Trouble String :=
  if f.sign.isSome then
    .error (.value "Sign not allowed with integer format specifier 'c'")
  else if f.alternate then
    .error (.value "Alternate form (#) not allowed with integer format specifier 'c'")
  else if !(-0x8000000000000000 ≤ n && n < 0x8000000000000000) then
    .error (.raised .overflow "Python int too large to convert to C long")
  else if n < 0 ∨ 0x110000 ≤ n then
    .error (.raised .overflow "%c arg not in range(0x110000)")
  else .ok (f.number ⟨false, [], [], [Char.ofNat n.toNat]⟩)

-- The digits of a number in a base; decimal ones are limited in number.
def digitsOf (base : Nat) (n : Int) : Except Trouble (List Char) :=
  if base = 10 then return (← decimalText n.natAbs).toList
  else .ok (Number.numeral base n.natAbs).toList

def inBase (f : FormatSpec) (base : Nat) (marker : String) (n : Int) : Except Trouble String := do
  let digits ← digitsOf base n
  let upper := f.kind = some 'X'
  let raise (cs : List Char) := if upper then cs.map Char.toUpper else cs
  let marker := if f.alternate then marker.toList else []
  return f.number ⟨n < 0, raise marker, raise digits, []⟩

-- A precision must fit a signed word of 32 bits.
def floatPrecision (f : FormatSpec) : Except Trouble (Option Nat) :=
  match f.precision with
  | some n => if 0x80000000 ≤ n then .error (.value "precision too big") else .ok (some n)
  | none => .ok none

-- The form in which a float is written. Without a kind the shortest digits are used, or
-- general notation once a precision is given.
def floatForm (f : FormatSpec) (precision : Option Nat) (keepPoint : Bool) : Number.FloatForm :=
  let style : Number.FloatStyle := match f.kind with
    | none => if precision.isNone then .shortest else .general
    | some k =>
      if k = 'e' || k = 'E' then .exponent
      else if k = 'f' || k = 'F' || k = '%' then .fixed
      else .general
  { style, precision := precision.getD 6
    upper := match f.kind with
      | some k => k = 'E' || k = 'F' || k = 'G'
      | none => false
    alternate := f.alternate
    keepPoint := keepPoint && f.kind.isNone
    plainZero := f.plainZero }

def isFloatKind (kind : Char) : Bool := "eEfFgGn%".toList.contains kind

def ofFloat (f : FormatSpec) (x : Float) : Except Trouble String := do
  let precision ← f.floatPrecision
  let percent := f.kind = some '%'
  let text := (f.floatForm precision true).text (if percent then x * 100.0 else x)
  let parts := Parts.ofFloatText text
  return f.number { parts with rest := parts.rest ++ if percent then ['%'] else [] }

def ofInt (f : FormatSpec) (n : Int) (ofType : String) : Except Trouble String :=
  let kind := f.kind.getD 'd'
  if isFloatKind kind && kind ≠ 'n' then do f.ofFloat (← Numbers.toFloat n)
  else if !("bcdoxXn".toList.contains kind) then .error (unknownKind kind ofType)
  else if f.precision.isSome then
    .error (.value "Precision not allowed in integer format specifier")
  else if f.plainZero then
    .error (.value "Negative zero coercion (z) not allowed in integer format specifier")
  else match kind with
    | 'c' => f.character n
    | 'b' => f.inBase 2 "0b" n
    | 'o' => f.inBase 8 "0o" n
    | 'x' | 'X' => f.inBase 16 "0x" n
    | _ => f.inBase 10 "" n

-- Both parts are written without padding, the second one always with its sign unless it
-- stands alone; then the whole is padded.
def ofComplex (f : FormatSpec) (re im : Float) : Except Trouble String := do
  match f.kind with
  | some k => if k = '%' || !isFloatKind k then throw (unknownKind k "complex")
  | none => pure ()
  if f.fill = '0' then
    throw (.value "Zero padding is not allowed in complex format specifier")
  if f.align = .inner then
    throw (.value "'=' alignment flag is not allowed in complex format specifier")
  let form := f.floatForm (← f.floatPrecision) false
  let alone := f.kind.isNone && re == 0.0 && !Number.Binary64.signBit re
  let bare := { f with fill := ' ', align := .left, width := none }
  let first := bare.number (Parts.ofFloatText (form.text re))
  let second := (if alone then bare else { bare with sign := some '+' }).number
    (Parts.ofFloatText (form.text im))
  let text := if alone then second ++ "j"
    else if f.kind.isNone then "(" ++ first ++ second ++ "j)"
    else first ++ second ++ "j"
  return f.padded text.toList

end FormatSpec

def Value.formatted (h : Heap) (v : Value) (spec : String) : Except Trouble String :=
  let read (natural : Alignment) (standard : Option Char) :=
    FormatSpec.ofText spec v.typeName natural standard
  if spec.isEmpty then v.text h
  else match v with
    | .str s => do (← read .left (some 's')).ofString s
    | .float x => do
      let f ← read .right Option.none
      match f.kind with
      | some k =>
        if FormatSpec.isFloatKind k then f.ofFloat x
        else .error (FormatSpec.unknownKind k "float")
      | Option.none => f.ofFloat x
    | .complex re im => do (← read .right Option.none).ofComplex re im
    | v => match v.int? with
      | some n => do (← read .right (some 'd')).ofInt n v.typeName
      | Option.none =>
        .error (.type s!"unsupported format string passed to {v.typeName}.__format__")

end ScriptArena
