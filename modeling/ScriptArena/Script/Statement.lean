import ScriptArena.Script.Pattern

namespace ScriptArena.Script
namespace Grammar
open Parse

def augmented : List (String × Operator) :=
  [("+=", .add), ("-=", .sub), ("*=", .mul), ("/=", .div), ("//=", .floorDiv), ("%=", .mod),
   ("**=", .pow), ("@=", .matMul), ("&=", .bitAnd), ("|=", .bitOr), ("^=", .bitXor),
   ("<<=", .leftShift), (">>=", .rightShift)]

-- A name, attribute or item, perhaps in brackets.
def itemTarget (r : Next) : Parse Expr := do
  let e ← starTarget r
  if isItem e then return e else mismatch

def typedAssign (r : Next) : Parse Stmt := do
  let line ← Parse.line
  let _ ← itemTarget r
  op ":"
  let _ ← r.get.expression
  if ← takeOp "=" then
    let _ ← yieldOrStar r
  return .unsupported .typedAssign line

def targetAndSign (r : Next) : Parse Expr := do
  let e ← starTargets r
  op "="
  return e

def plainAssign (r : Next) : Parse Stmt := do
  let first ← targetAndSign r
  let targets ← loop [first] fun acc => do
    match ← attempt (targetAndSign r) with
    | some e => return some (e :: acc)
    | none => return none
  let value ← yieldOrStar r
  if ← isOp "=" then mismatch
  return .assign targets.reverse value

def augAssign (r : Next) : Parse Stmt := do
  let line ← Parse.line
  let target ← itemTarget r
  match ← takeOneOf (augmented.map (·.1)) with
  | none => mismatch
  | some symbol =>
    match augmented.lookup symbol with
    | none => mismatch
    | some o => return .augAssign target o (← yieldOrStar r) line

def exprStatement (r : Next) : Parse Stmt :=
  orElse (typedAssign r) (orElse (plainAssign r) (orElse (augAssign r)
    (return .expr (← starExpressions r))))

-- Where a simple statement ends.
def endsSimple : Parse Bool := do
  match ← peek with
  | .newline => return true
  | .op s => return s == ";"
  | _ => return false

def isDeletable : Expr → Bool
  | .name .. | .attribute .. | .subscript .. => true
  | .tuple items => all items
  | .list items => all items
  | _ => false
where
  all : List Expr → Bool
    | [] => true
    | e :: rest => isDeletable e && all rest

def names : Parse Unit := do
  let _ ← commaList ident (return false)

def aliased (dotted : Bool) : Parse Unit := do
  if dotted then dottedName false
  else let _ ← ident
  if ← takeKeyword "as" then
    let _ ← ident

def importFrom : Parse Unit := do
  let dots ← loop 0 fun n => do
    match ← takeOneOf [".", "..."] with
    | some _ => return some (n + 1)
    | none => return none
  if !(← isKeyword "import") then dottedName false
  else if dots = 0 then mismatch
  keyword "import"
  if ← takeOp "*" then return ()
  if ← takeOp "(" then
    let _ ← commaList (aliased false) (isOp ")")
    op ")"
  else
    let _ ← commaList (aliased false) (return false)

def simple (r : Next) : Parse Stmt := do
  let line ← Parse.line
  match ← peek with
  | .keyword "return" =>
    advance
    if ← endsSimple then return .giveBack none line
    return .giveBack (some (← starExpressions r)) line
  | .keyword "import" =>
    advance
    let _ ← commaList (aliased true) (return false)
    return .unsupported .importNames line
  | .keyword "from" => advance; importFrom; return .unsupported .importFrom line
  | .keyword "raise" =>
    advance
    if !(← endsSimple) then
      let _ ← r.get.expression
      if ← takeKeyword "from" then
        let _ ← r.get.expression
    return .unsupported .raiseSignal line
  | .keyword "pass" => advance; return .pass
  | .keyword "del" =>
    advance
    let (items, _) ← commaList (orElse (targetAtom r) r.get.primary) endsSimple
    if !items.all isDeletable then mismatch
    if !(← endsSimple) then mismatch
    return .unsupported .deletion line
  | .keyword "yield" => return .expr (← yieldExpr r)
  | .keyword "assert" =>
    advance
    let _ ← r.get.expression
    if ← takeOp "," then
      let _ ← r.get.expression
    return .unsupported .assertion line
  | .keyword "break" => advance; return .leave line
  | .keyword "continue" => advance; return .next line
  | .keyword "global" => advance; names; return .unsupported .globalNames line
  | .keyword "nonlocal" => advance; names; return .unsupported .nonlocalNames line
  | _ => exprStatement r

-- Simple statements on one line, with semicolons between them.
def simpleLine (r : Next) : Parse (List Stmt) := do
  let first ← simple r
  let (items, _) ← loop ([first], false) fun (acc, done) => do
    if done then return none
    if ← takeOp ";" then
      match ← peek with
      | .newline => return some (acc, true)
      | _ => return some ((← simple r) :: acc, false)
    else return none
  newline
  return items.reverse

def missingBlock : Parse Unit := modify fun s => { s with blockAt := some s.left }

def isDedent : Parse Bool := do
  match ← peek with
  | .dedent => return true
  | _ => return false

-- Statements up to a token that ends them, which is taken.
def statementsUntil (r : Next) (stop : Parse Bool) : Parse (List Stmt) := do
  let groups ← loop [] fun acc => do
    if ← stop then return none
    else return some ((← r.get.statement) :: acc)
  advance
  return groups.reverse.flatten

def indented : Parse Unit := do
  match ← peek with
  | .indent => advance
  | _ => missingBlock; mismatch

def block (r : Next) : Parse (List Stmt) := do
  match ← peek with
  | .newline =>
    advance
    indented
    statementsUntil r isDedent
  | _ => simpleLine r

def colonBlock (r : Next) : Parse (List Stmt) := do
  op ":"
  block r

def elseBlock (r : Next) : Parse (List Stmt) := do
  if ← takeKeyword "else" then colonBlock r else return []

def branch (r : Next) : Parse Stmt := do
  let first : Expr × List Stmt := (← named r, ← colonBlock r)
  let arms ← loop [first] fun acc => do
    if ← takeKeyword "elif" then
      let test ← named r
      return some ((test, ← colonBlock r) :: acc)
    else return none
  let last ← elseBlock r
  let nested := arms.foldl (fun orelse (test, body) => [Stmt.branch test body orelse]) last
  match nested with
  | [s] => return s
  | _ => mismatch

def whileLoop (r : Next) : Parse Stmt := do
  let test ← named r
  let body ← colonBlock r
  return .whileLoop test body (← elseBlock r)

def forLoop (r : Next) : Parse Stmt := do
  let target ← starTargets r
  keyword "in"
  let iter ← starExpressions r
  let body ← colonBlock r
  return .forLoop target iter body (← elseBlock r)

def withItem (r : Next) : Parse Unit := do
  let _ ← r.get.expression
  let _ ← attempt do
    keyword "as"
    let _ ← starTarget r
    match ← peek with
    | .op s => if !([",", ")", ":"].contains s) then mismatch
    | _ => mismatch

def withBlock (r : Next) : Parse Unit := do
  orElse (do
    op "("
    let _ ← commaList (withItem r) (isOp ")")
    op ")"
    op ":")
    (do
      let _ ← commaList (withItem r) (return false)
      op ":")
  let _ ← block r

-- Handlers are all plain or all of the group kind.
def handler (r : Next) (group : Bool) : Parse Unit := do
  if group then op "*"
  else if ← isOp "*" then mismatch
  if group || !(← isOp ":") then
    let _ ← r.get.expression
    if ← takeKeyword "as" then
      let _ ← ident
  let _ ← colonBlock r

def tryBlock (r : Next) : Parse Bool := do
  let _ ← colonBlock r
  if ← takeKeyword "finally" then
    let _ ← colonBlock r
    return false
  -- A block without handlers is refused at once.
  if !(← takeKeyword "except") then refuse .shape
  let group ← isOp "*"
  handler r group
  let _ ← loop () fun _ => do
    if ← takeKeyword "except" then
      handler r group
      return some ()
    else return none
  let _ ← elseBlock r
  if ← takeKeyword "finally" then
    let _ ← colonBlock r
  return group

def funcDef (r : Next) (decorated : Bool) : Parse Stmt := do
  let line ← Parse.line
  keyword "def"
  let name ← ident
  op "("
  let params ← parameters r true ")"
  op ")"
  if ← takeOp "->" then
    let _ ← r.get.expression
  let body ← colonBlock r
  return .funcDef name params.names params.defaults body params.plain decorated line

def classBlock (r : Next) : Parse Stmt := do
  let line ← Parse.line
  keyword "class"
  let _ ← ident
  if ← takeOp "(" then
    let _ ← arguments r
  let _ ← colonBlock r
  return .unsupported .classBlock line

def asyncBlock (r : Next) (decorated : Bool) : Parse Stmt := do
  let line ← Parse.line
  keyword "async"
  if ← isKeyword "def" then
    let _ ← funcDef r decorated
    return .unsupported .asyncFunction line
  if decorated then mismatch
  if ← takeKeyword "for" then
    let _ ← forLoop r
    return .unsupported .asyncLoop line
  keyword "with"
  withBlock r
  return .unsupported .asyncWith line

def decoratedBlock (r : Next) : Parse Stmt := do
  let _ ← loop () fun _ => do
    if ← takeOp "@" then
      let _ ← named r
      newline
      return some ()
    else return none
  match ← peek with
  | .keyword "def" => funcDef r true
  | .keyword "class" => classBlock r
  | _ => asyncBlock r true

def caseBlock (r : Next) : Parse Unit := do
  soft "case"
  openPattern r
  if ← takeKeyword "if" then
    let _ ← named r
  let _ ← colonBlock r

-- `match` is a name that may begin a block; the reading is given up if the rest does not fit.
def matchBlock (r : Next) : Parse Stmt := do
  let line ← Parse.line
  soft "match"
  let starred ← isOp "*"
  let (items, comma) ← commaList (starNamed r) (isOp ":")
  if starred && items.length = 1 && !comma then mismatch
  op ":"
  newline
  indented
  caseBlock r
  let _ ← loop () fun _ => do
    if ← isSoft "case" then
      caseBlock r
      return some ()
    else return none
  if ← isDedent then advance else mismatch
  return .unsupported .matchBlock line

def statement (r : Next) : Parse (List Stmt) := do
  let line ← Parse.line
  match ← peek with
  | .keyword "def" => return [← funcDef r false]
  | .keyword "if" => advance; return [← branch r]
  | .keyword "while" => advance; return [← whileLoop r]
  | .keyword "for" => advance; return [← forLoop r]
  | .keyword "class" => return [← classBlock r]
  | .keyword "with" =>
    advance
    withBlock r
    return [.unsupported .withBlock line]
  | .keyword "try" =>
    advance
    let group ← tryBlock r
    return [.unsupported (if group then .tryGroup else .tryBlock) line]
  | .keyword "async" => return [← asyncBlock r false]
  | .op "@" => return [← decoratedBlock r]
  | .name "match" =>
    match ← attempt (matchBlock r) with
    | some s => return [s]
    | none => simpleLine r
  | _ => simpleLine r

def level (names : CharNames) (r : Next) : Rules where
  names
  expression := expression r
  disjunction := disjunction r
  inversion := inversion r
  bitOr := bitOr r
  factor := factor r
  primary := primary r
  starTarget := starTarget r
  statement := statement r
  pattern := pattern r
  pieces := pieces r

end Grammar

-- Levels of readers, each built when the one above needs it.
def Rules.tower (names : CharNames) : Nat → Rules
  | 0 => .exhausted names
  | n + 1 => Grammar.level names (Thunk.mk fun _ => Rules.tower names n)

inductive SourceFault where
  | malformed (what : Malformed)
  | nullCharacter
deriving Repr, DecidableEq

def isFinish : Parse Bool := do
  match ← Parse.peek with
  | .finish => return true
  | _ => return false

-- What a submission is called when no reading fits. A missing block or a misplaced indent is a
-- matter of indentation, unless a token further on could not be made at all.
def Cursor.verdict (s : Cursor) : Malformed :=
  let laterFault := s.farRest.any fun l => match l.token with
    | .fault .malformed => true
    | _ => false
  if s.blockAt = some s.far then (if laterFault then .shape else .indentation)
  else match s.farRest with
    | ⟨.indent, _⟩ :: _ | ⟨.dedent, _⟩ :: _ => .indentation
    | _ => .shape

def Module.ofText? (names : CharNames) (text : String) : Except SourceFault Module :=
  if text.toList.contains '\x00' then .error .nullCharacter
  else
    let tower := Thunk.mk fun _ => Rules.tower names (text.length + 8)
    match Grammar.statementsUntil tower isFinish (Cursor.ofTokens (lex text)) with
    | .ok m _ => .ok m
    | .error (.refused what) _ => .error (.malformed what)
    | .error .mismatch s => .error (.malformed s.verdict)

end ScriptArena.Script
