import ScriptArena.Document.Json

namespace ScriptArena.Target

def cutAt (mark : Char) (cs : List Char) : List Char := cs.takeWhile (· != mark)

-- A name of a host is left out.
def withoutHost : List Char → List Char
  | '/' :: '/' :: rest => rest.dropWhile (· != '/')
  | cs => cs

def rooted (cs : List Char) : List Char := '/' :: cs.dropWhile (· == '/')

def segments (cs : List Char) : List (List Char) := (cs.splitOn '/')

-- One dot stands for the place itself, and two for the place above it.
def resolveSegment (out : List (List Char)) (segment : List Char) : List (List Char) :=
  if segment = ['.'] then out
  else if segment = ['.', '.'] then (if out = [[]] then out else out.tail)
  else segment :: out

def resolved (cs : List Char) : List Char :=
  ['/'].intercalate (((segments cs).foldl resolveSegment []).reverse)

def utf8Bytes (c : Char) : List UInt8 := (String.singleton c).toUTF8.toList

def bytes : List Char → List UInt8
  | [] => []
  | '%' :: a :: b :: rest =>
    match Json.hexDigit? a, Json.hexDigit? b with
    | some h, some l => UInt8.ofNat (16 * h + l) :: bytes rest
    | _, _ => utf8Bytes '%' ++ bytes (a :: b :: rest)
  | c :: rest => utf8Bytes c ++ bytes rest
termination_by cs => cs.length

def replaced (b : UInt8) : Char := if b < 0x80 then Char.ofNat b.toNat else '\ufffd'

def decoded (bs : List UInt8) : List Char :=
  match String.fromUTF8? ⟨bs.toArray⟩ with
  | some s => s.toList
  | none => bs.map replaced

def path (target : String) : List Char :=
  let cs := cutAt '?' (cutAt '#' target.toList)
  decoded (bytes (resolved (rooted (withoutHost cs))))

end ScriptArena.Target
