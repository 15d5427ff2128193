import ScriptArena.Script.Token
import ScriptArena.Script.Numeral

namespace ScriptArena.Script

-- A text holds characters alone. A lone surrogate is none, so that the replacement sign stands for it,
-- and texts that differ in nothing but lone surrogates are one text.
def charOf (code : Nat) : Char :=
  if code < 0xD800 ∨ (0xDFFF < code ∧ code < 0x110000) then Char.ofNat code
  else Char.ofNat 0xFFFD

-- Exactly `count` hexadecimal digits.
def hexEscape (count : Nat) (cs : List Char) : Option (Nat × List Char) :=
  let ds := cs.take count
  if ds.length = count ∧ ds.all isHexDigit then some (natOf 16 ds, cs.drop count) else none

def isOctalDigit (c : Char) : Bool := '0' ≤ c && c ≤ '7'

-- At most three octal digits, of which the first is known to be there.
def octalEscape (cs : List Char) : Nat × List Char :=
  let ds := (cs.take 3).takeWhile isOctalDigit
  (natOf 8 ds, cs.drop ds.length)

def simpleEscape : Char → Option Char
  | '\\' => some '\\'
  | '\'' => some '\''
  | '"' => some '"'
  | 'a' => some '\x07'
  | 'b' => some '\x08'
  | 'f' => some '\x0c'
  | 'n' => some '\n'
  | 'r' => some '\r'
  | 't' => some '\t'
  | 'v' => some '\x0b'
  | _ => none

-- The characters that the host knows by name.
abbrev CharNames := String → Option Char

def CharNames.unknown : CharNames := fun _ => none

-- A name in braces, which is not empty.
def namedEscape (names : CharNames) : List Char → Option (List Nat × List Char)
  | '\x7b' :: inside =>
    let name := inside.takeWhile (· != '\x7d')
    match name, inside.drop name.length with
    | _ :: _, _ :: more => (names (String.ofList name)).map fun c => ([c.toNat], more)
    | _, _ => none
  | _ => none

-- Decode what follows a backslash: the code points, and the text after the escape.
def decodeEscape (names : CharNames) (isBytes : Bool) (c : Char) (rest : List Char) :
    Option (List Nat × List Char) :=
  match simpleEscape c with
  | some e => some ([e.toNat], rest)
  | none =>
    if c == '\n' then some ([], rest)
    else if isOctalDigit c then
      let (n, more) := octalEscape (c :: rest)
      some ([if isBytes then n % 256 else n], more)
    else if c == 'x' then (hexEscape 2 rest).map fun (n, more) => ([n], more)
    else if isBytes then some (['\\'.toNat, c.toNat], rest)
    else if c == 'u' then (hexEscape 4 rest).map fun (n, more) => ([n], more)
    else if c == 'U' then
      match hexEscape 8 rest with
      | some (n, more) => if n < 0x110000 then some ([n], more) else none
      | none => none
    else if c == 'N' then namedEscape names rest
    else some (['\\'.toNat, c.toNat], rest)

-- Every step takes a character, so the length is fuel enough.
def decodeFrom (names : CharNames) (isBytes : Bool) : Nat → List Char → Option (List Nat)
  | 0, _ => some []
  | _ + 1, [] => some []
  | _ + 1, ['\\'] => some ['\\'.toNat]
  | fuel + 1, '\\' :: c :: rest => do
    let (codes, more) ← decodeEscape names isBytes c rest
    return codes ++ (← decodeFrom names isBytes fuel more)
  | fuel + 1, c :: rest => do
    return c.toNat :: (← decodeFrom names isBytes fuel rest)

def decodeText (names : CharNames) (isRaw : Bool) (body : List Char) : Option String :=
  if isRaw then some (String.ofList body)
  else (decodeFrom names false (body.length + 1) body).map fun codes =>
    String.ofList (codes.map charOf)

-- Byte literals hold ASCII characters alone, and no names of characters.
def decodeBytes (isRaw : Bool) (body : List Char) : Option (List UInt8) :=
  if !body.all (·.toNat < 128) then none
  else if isRaw then some (body.map fun c => c.toNat.toUInt8)
  else (decodeFrom .unknown true (body.length + 1) body).map (·.map Nat.toUInt8)

end ScriptArena.Script
