import ScriptArena.Script.Parsing
import ScriptArena.Script.Lexer
import ScriptArena.Script.Template

namespace ScriptArena.Script

-- The readers of one nesting level. Where a construct holds another one, it is read by those of the next
-- level.
structure Rules where
  names : CharNames
  expression : Parse Expr
  disjunction : Parse Expr
  inversion : Parse Expr
  bitOr : Parse Expr
  factor : Parse Expr
  primary : Parse Expr
  starTarget : Parse Expr
  statement : Parse (List Stmt)
  pattern : Parse Unit
  pieces : Nat → List Piece → Parse (List Expr)

def Rules.exhausted (names : CharNames) : Rules where
  names
  expression := Parse.mismatch
  disjunction := Parse.mismatch
  inversion := Parse.mismatch
  bitOr := Parse.mismatch
  factor := Parse.mismatch
  primary := Parse.mismatch
  starTarget := Parse.mismatch
  statement := Parse.mismatch
  pattern := Parse.mismatch
  pieces := fun _ _ => Parse.mismatch

abbrev Next := Thunk Rules

namespace Grammar
open Parse

-- A single element is itself; a comma makes a tuple.
def tupleOf : List Expr × Bool → Expr
  | ([e], false) => e
  | (es, _) => .tuple es

-- `x := e`, or an expression that is not followed by `:=`.
def named (r : Next) : Parse Expr := do
  let line ← Parse.line
  let walrus ← attempt do
    let _ ← ident
    op ":="
  match walrus with
  | some _ =>
    let _ ← r.get.expression
    return .unsupported .namedExpr line
  | none =>
    let e ← r.get.expression
    if ← isOp ":=" then mismatch
    return e

def starNamed (r : Next) : Parse Expr := do
  let line ← Parse.line
  if ← takeOp "*" then
    let _ ← r.get.bitOr
    return .unsupported .starred line
  else named r

def starExpression (r : Next) : Parse Expr := do
  let line ← Parse.line
  if ← takeOp "*" then
    let _ ← r.get.bitOr
    return .unsupported .starred line
  else r.get.expression

-- Where a list of expressions may end after a comma.
def endsList : Parse Bool := do
  match ← peek with
  | .newline | .finish => return true
  | .op s => return [")", "]", "\x7d", "=", ":", ";", "+=", "-=", "*=", "/=", "//=", "%=", "@=",
      "&=", "|=", "^=", ">>=", "<<=", "**="].contains s
  | .keyword w => return w == "in"
  | _ => return false

def starExpressions (r : Next) : Parse Expr :=
  return tupleOf (← commaList (starExpression r) endsList)

def yieldExpr (r : Next) : Parse Expr := do
  let line ← Parse.line
  keyword "yield"
  if ← takeKeyword "from" then
    let _ ← r.get.expression
    return .unsupported .yieldFrom line
  else
    let _ ← attempt (starExpressions r)
    return .unsupported .yield line

def yieldOrStar (r : Next) : Parse Expr := do
  if ← isKeyword "yield" then yieldExpr r else starExpressions r

-- A parenthesized or bracketed group of targets, or a name, attribute or item.
def targetAtom (r : Next) : Parse Expr := do
  let group := attempt do
    let close ← match ← takeOneOf ["(", "["] with
      | some "(" => pure ")"
      | some _ => pure "]"
      | none => mismatch
    if ← takeOp close then
      return if close == ")" then Expr.tuple [] else .list []
    let (items, comma) ← commaList r.get.starTarget (isOp close)
    op close
    if close == "]" then return .list items
    match items, comma with
    | [e], false => match e with
      | .unsupported .. => mismatch
      | e => return e
    | es, _ => return .tuple es
  match ← group with
  | some e =>
    -- A group that goes on is the start of an attribute or an item.
    match ← peek with
    | .op s => if [".", "[", "("].contains s then mismatch else return e
    | _ => return e
  | none => mismatch

def isItem : Expr → Bool
  | .name .. | .attribute .. | .subscript .. => true
  | _ => false

def starTarget (r : Next) : Parse Expr := do
  let line ← Parse.line
  if ← takeOp "*" then
    if ← isOp "*" then mismatch
    let _ ← r.get.starTarget
    return .unsupported .starred line
  else orElse (targetAtom r) do
    let e ← r.get.primary
    if isItem e then return e else mismatch

def starTargets (r : Next) : Parse Expr :=
  return tupleOf (← commaList (starTarget r) endsList)

def startsClause : Parse Bool := do
  return (← isKeyword "for") || (← isKeyword "async")

def clause (r : Next) : Parse Generator := do
  let isAsync ← takeKeyword "async"
  keyword "for"
  let target ← starTargets r
  keyword "in"
  let iter ← r.get.disjunction
  let conditions ← loop [] fun acc => do
    if ← takeKeyword "if" then return some ((← r.get.disjunction) :: acc) else return none
  return .mk target iter conditions.reverse isAsync

def clauses (r : Next) : Parse (List Generator) := do
  let first ← clause r
  let more ← loop [first] fun acc => do
    if ← startsClause then return some ((← clause r) :: acc) else return none
  return more.reverse

-- The arguments read so far: how far the order of kinds has come, and both lists reversed.
structure Arguments where
  stage : Nat
  args : List Expr
  keywords : List Keyword

-- Plain arguments come first, then keywords and stars, then keywords and double stars.
def argument (r : Next) (acc : Arguments) : Parse Arguments := do
  let line ← Parse.line
  if ← takeOp "**" then
    let e ← r.get.expression
    return ⟨2, acc.args, .spread e :: acc.keywords⟩
  if ← takeOp "*" then
    if acc.stage = 2 then mismatch
    let _ ← r.get.expression
    return { acc with args := .unsupported .starred line :: acc.args }
  let keywordName ← attempt do
    let id ← ident
    op "="
    return id
  match keywordName with
  | some id =>
    let e ← r.get.expression
    return { acc with stage := max acc.stage 1, keywords := .named id e :: acc.keywords }
  | none =>
    if acc.stage ≠ 0 then mismatch
    let e ← named r
    if ← isOp "=" then mismatch
    return { acc with args := e :: acc.args }

-- The arguments of a call, after its opening bracket and up to its closing one.
def arguments (r : Next) : Parse Arguments := do
  if ← takeOp ")" then return ⟨0, [], []⟩
  let line ← Parse.line
  let generator ← attempt do
    let _ ← named r
    if !(← startsClause) then mismatch
    let _ ← clauses r
    op ")"
  match generator with
  | some _ => return ⟨0, [.unsupported .generator line], []⟩
  | none =>
    let first ← argument r ⟨0, [], []⟩
    let acc ← loop (first, false) fun (acc, done) => do
      if done then return none
      if ← takeOp "," then
        if ← isOp ")" then return some (acc, true)
        else return some (← argument r acc, false)
      else return none
    op ")"
    return ⟨0, acc.1.args.reverse, acc.1.keywords.reverse⟩

def optionalBound (r : Next) : Parse (Option Expr) := do
  match ← peek with
  | .op s => if [":", "]", ","].contains s then return none else return some (← r.get.expression)
  | _ => return some (← r.get.expression)

def sliceItem (r : Next) : Parse Expr := do
  let line ← Parse.line
  let range ← attempt do
    let lower ← optionalBound r
    op ":"
    let upper ← optionalBound r
    let step ← if ← takeOp ":" then optionalBound r else pure none
    return Expr.slice lower upper step line
  match range with
  | some e => return e
  | none => named r

def slices (r : Next) : Parse Expr := do
  let item : Parse (Expr × Bool) := do
    let line ← Parse.line
    if ← takeOp "*" then
      let _ ← r.get.bitOr
      return (.unsupported .starred line, true)
    else return (← sliceItem r, false)
  let (items, comma) ← commaList item (isOp "]")
  match items, comma with
  | [(e, false)], false => return e
  | es, _ => return .tuple (es.map (·.1))

-- The pieces of a template, with neighbouring stretches of text joined.
def joinText : List Expr → List Expr
  | .const (.text a) :: rest =>
    match joinText rest with
    | .const (.text b) :: more => .const (.text (a ++ b)) :: more
    | more => .const (.text a) :: more
  | e :: rest => e :: joinText rest
  | [] => []

-- The expression of a field is read as if it stood in brackets.
def fieldExpr (r : Next) (line : Nat) (source : List Char) : Parse Expr := fun s =>
  let text := '(' :: source ++ [')']
  let tokens := (lexFrom (text.length + 2) { Lexing.initial with line } (normalizeLines text))
  match r.get.primary (Cursor.ofTokens tokens) with
  | .ok e t =>
    match t.rest with
    | ⟨.newline, _⟩ :: _ => .ok e s
    | _ => .error (.refused .shape) s
  | .error _ _ => .error (.refused .shape) s

def pieces (r : Next) (line : Nat) : List Piece → Parse (List Expr)
  | [] => return []
  | .text t :: rest => return .const (.text t) :: (← pieces r line rest)
  | .field source lines shown conversion spec :: rest => do
    let e ← fieldExpr r (line + lines) source
    let spec ← match spec with
      | none => pure none
      | some ps => pure (some (Expr.template (joinText (← r.get.pieces line ps))))
    let field := Expr.field e conversion spec
    let lead := match shown with
      | some t => [.const (.text t), field]
      | none => [field]
    return lead ++ (← pieces r line rest)

structure Gathered where
  isBytes : Bool
  isTemplate : Bool
  bytes : List UInt8
  parts : List Expr

def gather (r : Next) (acc : Gathered) (t : TextLiteral) : Parse Gathered := do
  if t.isBytes != acc.isBytes then refuse .shape
  if t.isBytes then
    match decodeBytes t.isRaw t.body with
    | some b => return { acc with bytes := acc.bytes ++ b }
    | none => refuse .shape
  else if t.isTemplate then
    match Piece.ofBody? r.get.names t.isRaw t.body with
    | some ps =>
      return { acc with isTemplate := true, parts := acc.parts ++ (← pieces r t.line ps) }
    | none => refuse .shape
  else
    match decodeText r.get.names t.isRaw t.body with
    | some s => return { acc with parts := acc.parts ++ [.const (.text s)] }
    | none => refuse .shape

def texts (r : Next) : Parse Expr := do
  let literals ← loop [] fun acc => do
    match ← peek with
    | .text t => advance; return some (t :: acc)
    | _ => return none
  let isBytes := literals.any (·.isBytes)
  let all ← literals.reverse.foldlM (gather r) ⟨isBytes, false, [], []⟩
  if isBytes then return .const (.bytes all.bytes)
  let parts := (joinText all.parts).filter fun
    | .const (.text s) => !s.isEmpty
    | _ => true
  if all.isTemplate then return .template parts
  match parts with
  | [e] => return e
  | _ => return .const (.text "")

-- After an opening parenthesis: nothing, a value in brackets, a tuple or a generator.
def parenthesized (r : Next) (line : Nat) : Parse Expr := do
  if ← takeOp ")" then return .tuple []
  if ← isKeyword "yield" then
    let e ← yieldExpr r
    op ")"
    return e
  let starred ← isOp "*"
  let first ← starNamed r
  if ← isOp "," then
    let (items, _) ← loop ([first], false) fun (acc, done) => do
      if done then return none
      if ← takeOp "," then
        if ← isOp ")" then return some (acc, true)
        else return some ((← starNamed r) :: acc, false)
      else return none
    op ")"
    return .tuple items.reverse
  if starred then mismatch
  if ← startsClause then
    let _ ← clauses r
    op ")"
    return .unsupported .generator line
  op ")"
  return first

def bracketed (r : Next) : Parse Expr := do
  if ← takeOp "]" then return .list []
  let starred ← isOp "*"
  let first ← starNamed r
  if !starred && (← startsClause) then
    let generators ← clauses r
    op "]"
    return .listComp first generators
  let items ← loop ([first], false) fun (acc, done) => do
    if done then return none
    if ← takeOp "," then
      if ← isOp "]" then return some (acc, true)
      else return some ((← starNamed r) :: acc, false)
    else return none
  op "]"
  return .list items.1.reverse

def entry (r : Next) : Parse Entry := do
  if ← takeOp "**" then return .spread (← r.get.bitOr)
  let key ← r.get.expression
  op ":"
  return .pair key (← r.get.expression)

-- After an opening brace: a mapping, a set, or a comprehension of one of them.
def braced (r : Next) (line : Nat) : Parse Expr := do
  if ← takeOp "\x7d" then return .dict [] line
  match ← attempt (entry r) with
  | some first =>
    if ← startsClause then
      match first with
      | .pair .. =>
        let _ ← clauses r
        op "\x7d"
        return .unsupported .dictComp line
      | .spread _ => mismatch
    let items ← loop ([first], false) fun (acc, done) => do
      if done then return none
      if ← takeOp "," then
        if ← isOp "\x7d" then return some (acc, true)
        else return some ((← entry r) :: acc, false)
      else return none
    op "\x7d"
    return .dict items.1.reverse line
  | none =>
    let starred ← isOp "*"
    let _ ← starNamed r
    if !starred && (← startsClause) then
      let _ ← clauses r
      op "\x7d"
      return .unsupported .setComp line
    let _ ← loop false fun done => do
      if done then return none
      if ← takeOp "," then
        if ← isOp "\x7d" then return some true
        else
          let _ ← starNamed r
          return some false
      else return none
    op "\x7d"
    return .unsupported .set line

def atom (r : Next) : Parse Expr := do
  let line ← Parse.line
  match ← peek with
  | .name id => advance; return .name id line
  | .keyword "True" => advance; return .const (.bool true)
  | .keyword "False" => advance; return .const (.bool false)
  | .keyword "None" => advance; return .const .none
  | .number (some c) => advance; return .const c
  | .number none => refuse .shape
  | .text _ => texts r
  | .op "(" => advance; parenthesized r line
  | .op "[" => advance; bracketed r
  | .op "\x7b" => advance; braced r line
  | .op "..." => advance; return .const .ellipsis
  | _ => mismatch

def primary (r : Next) : Parse Expr := do
  let line ← Parse.line
  let first ← atom r
  loop first fun e => do
    if ← takeOp "." then return some (.attribute e (← ident) line)
    if ← takeOp "(" then
      let a ← arguments r
      return some (.call e a.args a.keywords line)
    if ← takeOp "[" then
      let key ← slices r
      op "]"
      return some (.subscript e key)
    return none

def power (r : Next) : Parse Expr := do
  let line ← Parse.line
  let base ← if ← takeKeyword "await" then do
      let _ ← primary r
      pure (Expr.unsupported .await line)
    else primary r
  if ← takeOp "**" then return .binary base .pow (← r.get.factor)
  return base

def factor (r : Next) : Parse Expr := do
  match ← takeOneOf ["+", "-", "~"] with
  | some "+" => return .unary .positive (← r.get.factor)
  | some "-" => return .unary .negative (← r.get.factor)
  | some _ => return .unary .invert (← r.get.factor)
  | none => power r

-- A level of operators that group to the left.
def leftLevel (operators : List (String × Operator)) (operand : Parse Expr) : Parse Expr := do
  let first ← operand
  loop first fun left => do
    match ← takeOneOf (operators.map (·.1)) with
    | none => return none
    | some symbol =>
      match operators.lookup symbol with
      | none => return none
      | some o => return some (.binary left o (← operand))

def term (r : Next) : Parse Expr :=
  leftLevel [("*", .mul), ("/", .div), ("//", .floorDiv), ("%", .mod), ("@", .matMul)] (factor r)

def sum (r : Next) : Parse Expr := leftLevel [("+", .add), ("-", .sub)] (term r)

def shift (r : Next) : Parse Expr := leftLevel [("<<", .leftShift), (">>", .rightShift)] (sum r)

def bitAnd (r : Next) : Parse Expr := leftLevel [("&", .bitAnd)] (shift r)

def bitXor (r : Next) : Parse Expr := leftLevel [("^", .bitXor)] (bitAnd r)

def bitOr (r : Next) : Parse Expr := leftLevel [("|", .bitOr)] (bitXor r)

def comparator : Parse (Option Comparator) := do
  match ← takeOneOf ["==", "!=", "<", "<=", ">", ">="] with
  | some "==" => return some .eq
  | some "!=" => return some .ne
  | some "<" => return some .lt
  | some "<=" => return some .le
  | some ">" => return some .gt
  | some _ => return some .ge
  | none =>
    if ← takeKeyword "in" then return some .isIn
    if ← takeKeyword "is" then
      if ← takeKeyword "not" then return some .notSame
      return some .same
    attempt do
      keyword "not"
      keyword "in"
      return .notIn

def comparison (r : Next) : Parse Expr := do
  let first ← bitOr r
  let links ← loop [] fun acc => do
    match ← comparator with
    | none => return none
    | some o => return some (.mk o (← bitOr r) :: acc)
  if links.isEmpty then return first
  return .compare first links.reverse

def inversion (r : Next) : Parse Expr := do
  if ← takeKeyword "not" then return .unary .not (← r.get.inversion)
  comparison r

-- Operands joined by one word; a single operand is itself.
def wordLevel (word : String) (build : List Expr → Expr) (operand : Parse Expr) :
    Parse Expr := do
  let first ← operand
  let more ← loop [first] fun acc => do
    if ← takeKeyword word then return some ((← operand) :: acc) else return none
  match more with
  | [e] => return e
  | es => return build es.reverse

def disjunction (r : Next) : Parse Expr :=
  wordLevel "or" .anyOf (wordLevel "and" .allOf (inversion r))

-- The parameters read so far. `stage` is 0 before a star and 1 behind it, 2 behind a bare
-- star that still lacks a name, and 3 at the end.
structure Params where
  names : List String
  defaults : List Expr
  plain : Bool
  slash : Bool
  stage : Nat

def typeMark (r : Next) (typed : Bool) (star : Bool) : Parse Unit := do
  if typed then
    if ← takeOp ":" then
      if star then let _ ← starExpression r
      else let _ ← r.get.expression

def parameter (r : Next) (typed : Bool) (acc : Params) : Parse Params := do
  if acc.stage = 3 then mismatch
  if ← takeOp "/" then
    if acc.slash || acc.stage ≠ 0 || acc.names.isEmpty then mismatch
    return { acc with plain := false, slash := true }
  if ← takeOp "**" then
    if acc.stage = 2 then mismatch
    let _ ← ident
    typeMark r typed false
    return { acc with plain := false, stage := 3 }
  if ← takeOp "*" then
    if acc.stage ≠ 0 then mismatch
    if ← isOp "," then return { acc with plain := false, stage := 2 }
    let _ ← ident
    typeMark r typed true
    return { acc with plain := false, stage := 1 }
  let id ← ident
  typeMark r typed false
  if ← takeOp "=" then
    let e ← r.get.expression
    if acc.stage = 0 then
      return { acc with names := acc.names ++ [id], defaults := acc.defaults ++ [e] }
    return { acc with stage := 1 }
  if acc.stage = 0 then
    if !acc.defaults.isEmpty then mismatch
    return { acc with names := acc.names ++ [id] }
  return { acc with stage := 1 }

-- Parameters up to a closing token, which is not taken.
def parameters (r : Next) (typed : Bool) (close : String) : Parse Params := do
  let start : Params := ⟨[], [], true, false, 0⟩
  if ← isOp close then return start
  let first ← parameter r typed start
  let (acc, _) ← loop (first, false) fun (acc, done) => do
    if done then return none
    if ← takeOp "," then
      if ← isOp close then return some (acc, true)
      else return some (← parameter r typed acc, false)
    else return none
  if acc.stage = 2 then mismatch
  return acc

def lambda (r : Next) : Parse Expr := do
  let line ← Parse.line
  keyword "lambda"
  let _ ← parameters r false ":"
  op ":"
  let _ ← r.get.expression
  return .unsupported .lambda line

def expression (r : Next) : Parse Expr := do
  if ← isKeyword "lambda" then lambda r
  else
    let body ← disjunction r
    let choice ← attempt do
      keyword "if"
      let test ← disjunction r
      keyword "else"
      return (test, ← r.get.expression)
    match choice with
    | some (test, orelse) => return .conditional test body orelse
    | none => return body

end Grammar
end ScriptArena.Script
