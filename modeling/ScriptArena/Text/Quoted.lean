import ScriptArena.Number.Numeral
import ScriptArena.Text.Printable

namespace ScriptArena.Text

-- A numeral of at least `width` hexadecimal digits.
def hexDigits (width n : Nat) : List Char :=
  let ds := Number.digitsFrom 16 (Number.bitLength n + 1) n []
  List.replicate (width - ds.length) '0' ++ ds

def codeEscape (code : Nat) : List Char :=
  if code < 0x100 then '\\' :: 'x' :: hexDigits 2 code
  else if code < 0x10000 then '\\' :: 'u' :: hexDigits 4 code
  else '\\' :: 'U' :: hexDigits 8 code

def quoteFor (cs : List Char) : Char :=
  if cs.contains '\'' && !cs.contains '"' then '"' else '\''

def namedEscape : Char → Option (List Char)
  | '\t' => some ['\\', 't']
  | '\n' => some ['\\', 'n']
  | '\r' => some ['\\', 'r']
  | _ => none

def quoteChar (quote c : Char) : List Char :=
  if c == quote || c == '\\' then ['\\', c]
  else match namedEscape c with
    | some e => e
    | none => if isPrintable c then [c] else codeEscape c.toNat

def quote (s : String) : String :=
  let cs := s.toList
  let q := quoteFor cs
  String.ofList (q :: cs.flatMap (quoteChar q) ++ [q])

-- Bytes are shown as the ASCII characters they stand for, and as escapes otherwise.
def quoteByte (quote : Char) (b : UInt8) : List Char :=
  let c := Char.ofNat b.toNat
  if c == quote || c == '\\' then ['\\', c]
  else match namedEscape c with
    | some e => e
    | none => if 32 ≤ b.toNat && b.toNat < 127 then [c] else codeEscape b.toNat

def quoteBytes (bs : List UInt8) : String :=
  let q := quoteFor (bs.map fun b => Char.ofNat b.toNat)
  String.ofList ('b' :: q :: bs.flatMap (quoteByte q) ++ [q])

-- Every character that is not ASCII becomes an escape.
def asciiOnly (s : String) : String :=
  String.ofList (s.toList.flatMap fun c => if c.toNat < 128 then [c] else codeEscape c.toNat)

end ScriptArena.Text
