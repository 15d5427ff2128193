import ScriptArena.Script.Literal

namespace ScriptArena.Script

-- A field holds the text of its expression, the number of lines of the body before it, the
-- conversion, and the pieces of its format; `shown` is the text that a field with `=` repeats.
inductive Piece where
  | text (s : String)
  | field (source : List Char) (lines : Nat) (shown : Option String) (conversion : Conversion)
      (spec : Option (List Piece))

def isFieldBlank (c : Char) : Bool := c == ' ' || c == '\t' || c == '\n' || c == '\x0c'

structure Stretch where
  raw : List Char
  doubled : Bool
  rest : List Char

-- Skip the braces of a character named in braces, which are part of the literal.
def skipNamed : List Char → List Char × List Char
  | [] => ([], [])
  | c :: rest =>
    if c == '\x7d' then ([c], rest)
    else let (a, b) := skipNamed rest; (c :: a, b)

-- A literal reaches up to a brace. Doubled braces stand for one, outside of formats only.
def scanLiteral (isRaw nested : Bool) : Nat → List Char → List Char → Option Stretch
  | 0, _, _ => none
  | _ + 1, acc, [] => some ⟨acc.reverse, false, []⟩
  | fuel + 1, acc, c :: rest =>
    if c == '\\' && !isRaw then
      match rest with
      | 'N' :: '\x7b' :: more =>
        let (inside, after) := skipNamed more
        scanLiteral isRaw nested fuel (inside.reverse ++ ['\x7b', 'N', '\\'] ++ acc) after
      | e :: more =>
        if e == '\x7b' || e == '\x7d' then brace fuel ('\\' :: acc) e more
        else scanLiteral isRaw nested fuel (e :: '\\' :: acc) more
      | [] => some ⟨(c :: acc).reverse, false, []⟩
    else if c == '\x7b' || c == '\x7d' then brace fuel acc c rest
    else scanLiteral isRaw nested fuel (c :: acc) rest
where
  brace (_fuel : Nat) (acc : List Char) (c : Char) (rest : List Char) : Option Stretch :=
    if nested then some ⟨acc.reverse, false, c :: rest⟩
    else if rest.head? == some c then some ⟨(c :: acc).reverse, true, rest.drop 1⟩
    else if c == '\x7d' then none
    else some ⟨acc.reverse, false, c :: rest⟩

structure FieldScan where
  quote : Option (Char × Bool)
  brackets : List Char

-- The expression of a field reaches up to `!`, `:`, `=` or a closing brace outside of
-- brackets and quotes. Backslashes and comments are refused everywhere in it.
def scanField : Nat → FieldScan → List Char → List Char → Option (List Char × List Char)
  | 0, _, _, _ => none
  | _ + 1, _, _, [] => none
  | fuel + 1, s, acc, c :: rest =>
    if c == '\\' then none
    else match s.quote with
    | some (q, triple) =>
      if c == q then
        if triple then
          match rest with
          | a :: b :: more =>
            if a == q && b == q then scanField fuel { s with quote := none } (b :: a :: c :: acc) more
            else scanField fuel s (c :: acc) rest
          | _ => scanField fuel s (c :: acc) rest
        else scanField fuel { s with quote := none } (c :: acc) rest
      else scanField fuel s (c :: acc) rest
    | none =>
      if c == '\'' || c == '"' then
        match rest with
        | a :: b :: more =>
          if a == c && b == c then
            scanField fuel { s with quote := some (c, true) } (b :: a :: c :: acc) more
          else scanField fuel { s with quote := some (c, false) } (c :: acc) rest
        | _ => scanField fuel { s with quote := some (c, false) } (c :: acc) rest
      else if c == '(' || c == '[' || c == '\x7b' then
        if 200 ≤ s.brackets.length then none
        else scanField fuel { s with brackets := c :: s.brackets } (c :: acc) rest
      else if c == '#' then none
      else if s.brackets.isEmpty && (c == '!' || c == ':' || c == '\x7d' || c == '=' || c == '>' || c == '<')
      then
        if (c == '!' || c == '=' || c == '<' || c == '>') && rest.head? == some '=' then
          scanField fuel s ('=' :: c :: acc) (rest.drop 1)
        else if c == '>' || c == '<' then scanField fuel s (c :: acc) rest
        else some (acc.reverse, c :: rest)
      else if c == ')' || c == ']' || c == '\x7d' then
        match s.brackets with
        | o :: more =>
          if (o == '(' && c == ')') || (o == '[' && c == ']') || (o == '\x7b' && c == '\x7d') then
            scanField fuel { s with brackets := more } (c :: acc) rest
          else none
        | [] => none
      else scanField fuel s (c :: acc) rest

def isAsciiSpace (c : Char) : Bool :=
  c == ' ' || ('\t' ≤ c && c ≤ '\r')

-- `x = ` before a conversion or format shows its own text.
def scanShown (source rest : List Char) : Option String × List Char :=
  match rest with
  | '=' :: more =>
    let blanks := more.takeWhile isAsciiSpace
    (some (String.ofList (source ++ '=' :: blanks)), more.drop blanks.length)
  | _ => (none, rest)

def scanConversion (rest : List Char) : Option (Option Conversion × List Char) :=
  match rest with
  | '!' :: 's' :: more => some (some .text, more)
  | '!' :: 'r' :: more => some (some .quoted, more)
  | '!' :: 'a' :: more => some (some .asciiQuoted, more)
  | '!' :: _ => none
  | _ => some (none, rest)

-- Pieces up to the end of the body, or, inside a format, up to the closing brace. `level`
-- counts the formats around; fields may stand in a format but not in a format of such a field.
def scanPieces (names : CharNames) (isRaw : Bool) (level : Nat) : Nat → Nat → List Char →
    Option (List Piece × List Char)
  | 0, _, _ => none
  | fuel + 1, lines, cs => do
    let stretch ← scanLiteral isRaw (level != 0) (cs.length + 1) [] cs
    let text ← decodeText names isRaw stretch.raw
    let taken := cs.length - stretch.rest.length
    let lines := lines + (cs.take taken).count '\n'
    let lead := if text.isEmpty then [] else [Piece.text text]
    if stretch.doubled then
      let (more, rest) ← scanPieces names isRaw level fuel lines stretch.rest
      return (lead ++ more, rest)
    else match stretch.rest with
    | '\x7b' :: inside =>
      if 2 ≤ level then none
      let (source, rest) ← scanField (inside.length + 1) ⟨none, []⟩ [] inside
      if source.all isFieldBlank then none
      let (shown, rest) := scanShown source rest
      let (conversion, rest) ← scanConversion rest
      let before := inside.length - rest.length
      let (spec, rest) ← match rest with
        | ':' :: more =>
          if more.isEmpty then none
          let (pieces, rest) ← scanPieces names isRaw (level + 1) fuel
            (lines + (inside.take before).count '\n') more
          some (some pieces, rest)
        | _ => some (none, rest)
      match rest with
      | '\x7d' :: more =>
        let conversion := conversion.getD
          (if shown.isSome && spec.isNone then .quoted else .plain)
        let here := Piece.field source lines shown conversion spec
        let used := inside.length - more.length
        let (others, rest) ← scanPieces names isRaw level fuel
          (lines + (inside.take used).count '\n') more
        return (lead ++ here :: others, rest)
      | _ => none
    | rest => return (lead, rest)

def Piece.ofBody? (names : CharNames) (isRaw : Bool) (body : List Char) : Option (List Piece) := do
  let (pieces, rest) ← scanPieces names isRaw 0 (body.length + 2) 0 body
  if rest.isEmpty then some pieces else none

end ScriptArena.Script
