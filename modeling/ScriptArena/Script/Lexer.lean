import ScriptArena.Script.Numeral
import ScriptArena.Text.Identifier
import ScriptArena.Text.Compatibility
import ScriptArena.Text.Printable

namespace ScriptArena.Script

-- An indentation under both measures.
structure Depth where
  col : Nat
  alt : Nat
deriving Repr, DecidableEq

def maxIndents : Nat := 100
def maxBrackets : Nat := 200

-- Line ends of all three kinds become one, and the last line is ended.
def normalizeLines (cs : List Char) : List Char :=
  let out := unify cs
  if out.getLast? = some '\n' then out else out ++ ['\n']
where
  unify : List Char → List Char
    | '\r' :: '\n' :: rest => '\n' :: unify rest
    | '\r' :: rest => '\n' :: unify rest
    | c :: rest => c :: unify rest
    | [] => []

-- The start of a line: its indentation, the text behind it, and the lines that
-- continuations have joined to it.
structure LineStart where
  depth : Depth
  rest : List Char
  lines : Nat

-- A backslash must end its line, and a line must follow.
def afterContinuation : List Char → Except LexFault (List Char)
  | '\n' :: [] => .error .unfinished
  | '\n' :: rest => .ok rest
  | _ => .error .strayContinuation

-- `kept` is the column at the first backslash, which decides the depth of the joined line.
def measureIndent : Nat → List Char → Depth → Nat → Nat → Except LexFault LineStart
  | 0, cs, depth, _, lines => .ok ⟨depth, cs, lines⟩
  | fuel + 1, cs, depth, kept, lines =>
    match cs with
    | ' ' :: rest => measureIndent fuel rest ⟨depth.col + 1, depth.alt + 1⟩ kept lines
    | '\t' :: rest =>
      measureIndent fuel rest ⟨(depth.col / 8 + 1) * 8, depth.alt + 1⟩ kept lines
    | '\x0c' :: rest => measureIndent fuel rest ⟨0, 0⟩ kept lines
    | '\\' :: rest =>
      match afterContinuation rest with
      | .error e => .error e
      | .ok rest =>
        measureIndent fuel rest depth (if kept = 0 then depth.col else kept) (lines + 1)
    | _ => .ok ⟨if kept = 0 then depth else ⟨kept, kept⟩, cs, lines⟩

-- Close the open depths that lie deeper than `depth`.
def closeDepths (depth : Depth) : List Depth → Nat × List Depth
  | [] => (0, [])
  | [d] => (0, [d])
  | d :: rest =>
    if depth.col < d.col then
      let (n, left) := closeDepths depth rest
      (n + 1, left)
    else (0, d :: rest)

-- The tokens that a new depth gives, and the depths that are open afterwards, deepest first.
def indentTokens (depth : Depth) (opened : List Depth) :
    Except LexFault (List Token × List Depth) :=
  let top := opened.headD ⟨0, 0⟩
  if depth.col = top.col then
    if depth.alt = top.alt then .ok ([], opened) else .error .mixedTabs
  else if top.col < depth.col then
    if maxIndents ≤ opened.length then .error .tooManyIndents
    else if depth.alt ≤ top.alt then .error .mixedTabs
    else .ok ([.indent], depth :: opened)
  else
    let (n, left) := closeDepths depth opened
    let outer := left.headD ⟨0, 0⟩
    if depth.col ≠ outer.col then .error .unmatchedDedent
    else if depth.alt ≠ outer.alt then .error .mixedTabs
    else .ok (List.replicate n .dedent, left)

structure TextMarks where
  isBytes : Bool
  isRaw : Bool
  isTemplate : Bool

def isQuote (c : Char) : Bool := c == '"' || c == '\''

-- A text literal may be marked by `b`, `r`, `u`, `f`, or `r` together with `b` or `f`.
def textMarks? (letters : List Char) : Option TextMarks :=
  match letters.map Char.toLower with
  | [] => some ⟨false, false, false⟩
  | ['u'] => some ⟨false, false, false⟩
  | ['b'] => some ⟨true, false, false⟩
  | ['r'] => some ⟨false, true, false⟩
  | ['f'] => some ⟨false, false, true⟩
  | ['b', 'r'] | ['r', 'b'] => some ⟨true, true, false⟩
  | ['f', 'r'] | ['r', 'f'] => some ⟨false, true, true⟩
  | _ => none

-- The body of a text literal up to its closing quote; a backslash hides what follows it.
def textBody (quote : Char) (triple : Bool) : List Char → List Char →
    Option (List Char × List Char)
  | [], _ => none
  | '\\' :: c :: rest, acc => textBody quote triple rest (c :: '\\' :: acc)
  | c :: rest, acc =>
    if c == quote then
      if !triple then some (acc.reverse, rest)
      else match rest with
        | q :: r :: more =>
          if q == quote && r == quote then some (acc.reverse, more)
          else textBody quote triple rest (c :: acc)
        | _ => none
    else if c == '\n' && !triple then none
    else textBody quote triple rest (c :: acc)

def scanText (marks : TextMarks) (line : Nat) (quote : Char) (rest : List Char) :
    Option (TextLiteral × List Char) :=
  let found := match rest with
    | q :: r :: more =>
      if q == quote && r == quote then textBody quote true more []
      else if q == quote then some ([], r :: more)
      else textBody quote false rest []
    | _ => textBody quote false rest []
  found.map fun (body, more) =>
    (⟨marks.isBytes, marks.isRaw, marks.isTemplate, body, line⟩, more)

-- The longest operator that the text begins with.
def scanOperator (cs : List Char) : Option (String × List Char) :=
  let at3 := String.ofList (cs.take 3)
  let at2 := String.ofList (cs.take 2)
  if threeCharOperators.contains at3 then some (at3, cs.drop 3)
  else if twoCharOperators.contains at2 then some (at2, cs.drop 2)
  else match cs with
    | c :: rest => if Text.isPrintable c then some (String.ofList [c], rest) else none
    | [] => none

def closes (opening closing : Char) : Bool :=
  match opening, closing with
  | '(', ')' | '[', ']' | '\x7b', '\x7d' => true
  | _, _ => false

-- The open brackets after an operator; none if it closes what is not open, or nests too deep.
def trackBrackets (symbol : String) (brackets : List Char) : Option (List Char) :=
  match symbol.toList with
  | [c] =>
    if c == '(' || c == '[' || c == '\x7b' then
      if maxBrackets ≤ brackets.length then none else some (c :: brackets)
    else if c == ')' || c == ']' || c == '\x7d' then
      match brackets with
      | o :: rest => if closes o c then some rest else none
      | [] => none
    else some brackets
  | _ => some brackets

def nameToken (word : List Char) : Option Token :=
  let id := String.ofList word
  if word.all (·.toNat < 128) then
    some (if keywords.contains id then .keyword id else .name id)
  else if Text.isName word then some (.name (Text.compatibilityForm id))
  else none

-- Where the lexer stands: the line, whether a line begins here, whether it has shown a
-- token, the open depths and the open brackets.
structure Lexing where
  line : Nat
  atStart : Bool
  blank : Bool
  depths : List Depth
  brackets : List Char

def Lexing.initial : Lexing := ⟨1, true, false, [⟨0, 0⟩], []⟩

-- Cut one token off a text that does not begin with blanks, comments or a line end.
def scanToken (line : Nat) (brackets : List Char) (cs : List Char) :
    Option (Token × List Char × List Char) :=
  match cs with
  | [] => none
  | c :: rest =>
    if runsOn c && !isDecimalDigit c then
      let letters := cs.takeWhile Char.isAlpha
      let afterLetters := cs.drop letters.length
      match textMarks? letters, afterLetters with
      | some marks, q :: body =>
        if isQuote q then
          (scanText marks line q body).map fun (t, more) => (.text t, more, brackets)
        else word
      | _, _ => word
    else if isDecimalDigit c || (c == '.' && rest.head?.any isDecimalDigit) then
      (scanNumber cs).map fun n => (.number n.value, n.rest, brackets)
    else if isQuote c then
      (scanText ⟨false, false, false⟩ line c rest).map fun (t, more) => (.text t, more, brackets)
    else do
      let (symbol, more) ← scanOperator cs
      let brackets ← trackBrackets symbol brackets
      return (.op symbol, more, brackets)
where
  word : Option (Token × List Char × List Char) :=
    (nameToken (cs.takeWhile runsOn)).map fun t => (t, cs.dropWhile runsOn, brackets)

-- The next token of a line, or what ends the line. `more` goes on behind it.
def lexLine (more : Lexing → List Char → List Lexeme) (s : Lexing) (cs : List Char) :
    List Lexeme :=
  match cs.dropWhile fun c => c == ' ' || c == '\t' || c == '\x0c' with
  | [] => [⟨if s.brackets.isEmpty then .finish else .fault .unfinished, s.line⟩]
  | '#' :: rest => more s (rest.dropWhile (· != '\n'))
  | '\n' :: rest =>
    let next := { s with line := s.line + 1, atStart := true, blank := false }
    if s.blank || !s.brackets.isEmpty then more next rest
    else ⟨.newline, s.line⟩ :: more next rest
  | '\\' :: rest =>
    match afterContinuation rest with
    | .error f => [⟨.fault f, s.line⟩]
    | .ok rest => more { s with line := s.line + 1 } rest
  | cs =>
    match scanToken s.line s.brackets cs with
    | none => [⟨.fault .malformed, s.line⟩]
    | some (token, rest, brackets) =>
      -- Only text literals hold line ends, and these count for what follows.
      let lines := match token with
        | .text literal => literal.body.count '\n'
        | _ => 0
      ⟨token, s.line⟩ :: more { s with brackets, line := s.line + lines } rest

-- Every step takes at least one character, so the length of the text is fuel enough.
def lexFrom : Nat → Lexing → List Char → List Lexeme
  | 0, s, _ => [⟨.finish, s.line⟩]
  | fuel + 1, s, cs =>
    if s.atStart then
      match measureIndent (fuel + 1) cs ⟨0, 0⟩ 0 0 with
      | .error f => [⟨.fault f, s.line⟩]
      | .ok start =>
        let s := { s with atStart := false, line := s.line + start.lines }
        let blank := start.rest.head?.any fun c => c == '#' || c == '\n'
        if blank || !s.brackets.isEmpty then lexLine (lexFrom fuel) { s with blank } start.rest
        else
          match indentTokens start.depth s.depths with
          | .error f => [⟨.fault f, s.line⟩]
          | .ok (tokens, depths) =>
            tokens.map (⟨·, s.line⟩) ++ lexLine (lexFrom fuel) { s with depths, blank } start.rest
    else lexLine (lexFrom fuel) s cs

def lex (source : String) : List Lexeme :=
  let cs := normalizeLines source.toList
  lexFrom (cs.length + 1) .initial cs

end ScriptArena.Script
