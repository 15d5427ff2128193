import ScriptArena.Script.Tree

namespace ScriptArena.Script

def Construct.label : Construct → String
  | .importNames | .importFrom => "import statements"
  | .classBlock => "class definitions"
  | .lambda => "lambda expressions"
  | .tryBlock | .tryGroup => "try/except blocks"
  | .withBlock => "with blocks"
  | .raiseSignal => "raise statements"
  | .assertion => "assert statements"
  | .deletion => "del statements"
  | .globalNames => "global declarations"
  | .nonlocalNames => "nonlocal declarations"
  | .generator => "generator expressions"
  | .setComp => "set comprehensions"
  | .dictComp => "dict comprehensions"
  | .set => "set literals"
  | .yield | .yieldFrom => "generators"
  | .await | .asyncFunction | .asyncLoop | .asyncWith => "async code"
  | .starred => "star unpacking"
  | .namedExpr => "assignment expressions"
  | .matchBlock => "match statements"
  | .typedAssign => "annotated assignments"

-- The label of an operator that exercises may not use; none for the others.
def Operator.label? : Operator → Option String
  | .bitAnd | .bitOr | .bitXor | .leftShift | .rightShift => some "bitwise operators"
  | .matMul => some "matrix multiplication"
  | .add | .sub | .mul | .div | .floorDiv | .mod | .pow => none

def Operator.supported (o : Operator) : Bool := o.label?.isNone

inductive Offence where
  | unsupported (label : String)
  | decorator
  | parameters
  | reservedName (name : String)
  | returnOutside
  | breakOutside
  | continueOutside
  | target
  | asyncComprehension
  | spreadEntry
  | spreadArgument
  | attributeAccess
  | privateMember (name : String)
deriving Repr, DecidableEq

def Offence.message : Offence → String
  | .unsupported label => s!"{label} are not supported in this exercise"
  | .decorator => "decorators are not supported"
  | .parameters => "only plain positional parameters are supported"
  | .reservedName name => "names starting with '__' are not allowed ('" ++ name ++ "')"
  | .returnOutside => "'return' outside function"
  | .breakOutside => "'break' outside loop"
  | .continueOutside => "'continue' not properly in loop"
  | .target => "unsupported assignment target"
  | .asyncComprehension => "async comprehensions are not supported"
  | .spreadEntry => "dict unpacking is not supported"
  | .spreadArgument => "'**' arguments are not supported"
  | .attributeAccess => "attribute access is only supported for method calls"
  | .privateMember name => "access to '" ++ name ++ "' is not allowed"

-- Why the walk stops: at an offence, or because the tree is too deep to follow.
inductive Refusal where
  | offence (what : Offence) (line : Option Nat)
  | tooDeep
deriving Repr, DecidableEq

abbrev Check := Except Refusal Unit

def forbid (what : Offence) (line : Nat) : Check := .error (.offence what (some line))

def isReserved (name : String) : Bool := name.toList.take 2 == ['_', '_']

def isPrivate (name : String) : Bool := name.toList.head? == some '_'

def checkName (name : String) (line : Nat) : Check :=
  if isReserved name then forbid (.reservedName name) line else .ok ()

mutual

-- A target is a name, an item, or a tuple or list of targets.
def checkTarget : Expr → Check
  | .tuple items | .list items => checkTargets items
  | .name .. | .subscript .. => .ok ()
  | e => .error (.offence .target e.line?)

def checkTargets : List Expr → Check
  | [] => .ok ()
  | e :: rest => do checkTarget e; checkTargets rest

end

-- A target that is also read.
def Expr.isPlainTarget : Expr → Bool
  | .name .. | .subscript .. => true
  | _ => false

-- The deepest nesting of constructs that is followed. It stands for the host's limit on recursion, which
-- counts frames and not nodes.
def maxNesting : Nat := 400

def checkOperator (o : Operator) : Check :=
  match o.label? with
  | some label => .error (.offence (.unsupported label) none)
  | none => .ok ()

-- Entries are walked keys first.
def Entry.key? : Entry → Option Expr
  | .pair key _ => some key
  | .spread _ => none

def Entry.value : Entry → Expr
  | .pair _ value | .spread value => value

def Keyword.value : Keyword → Expr
  | .named _ value | .spread value => value

def Keyword.isSpread : Keyword → Bool
  | .spread _ => true
  | .named .. => false

def Link.right : Link → Expr
  | .mk _ right => right

-- Of a method that is called, its name and its value are looked at.
def checkCallee (check : Expr → Check) : Expr → Check
  | .attribute value member line => do
    if isPrivate member then forbid (.privateMember member) line
    check value
  | e => check e

def checkGenerator (check : Expr → Check) : Generator → Check
  | .mk target iter conditions isAsync => do
    if isAsync then .error (.offence .asyncComprehension none)
    checkTarget target
    check target
    check iter
    conditions.forM check

def checkExpr : Nat → Expr → Check
  | 0, _ => .error .tooDeep
  | room + 1, e =>
    match e with
    | .const _ => .ok ()
    | .name id line => checkName id line
    | .list items | .tuple items => items.forM (checkExpr room)
    | .dict entries line => do
      if entries.any (·.key?.isNone) then forbid .spreadEntry line
      (entries.filterMap Entry.key?).forM (checkExpr room)
      (entries.map Entry.value).forM (checkExpr room)
    | .binary left o right => do
      checkExpr room left
      checkOperator o
      checkExpr room right
    | .unary o operand => do
      if o = .invert then .error (.offence (.unsupported "bitwise operators") none)
      checkExpr room operand
    | .allOf operands | .anyOf operands => operands.forM (checkExpr room)
    | .compare left links => do
      checkExpr room left
      (links.map Link.right).forM (checkExpr room)
    | .conditional test body orelse => do
      checkExpr room test
      checkExpr room body
      checkExpr room orelse
    | .call callee args keywords line => do
      if keywords.any Keyword.isSpread then forbid .spreadArgument line
      checkCallee (checkExpr room) callee
      args.forM (checkExpr room)
      (keywords.map Keyword.value).forM (checkExpr room)
    | .attribute _ _ line => forbid .attributeAccess line
    | .subscript container key => do
      checkExpr room container
      checkExpr room key
    | .slice lower upper step _ => do
      lower.forM (checkExpr room)
      upper.forM (checkExpr room)
      step.forM (checkExpr room)
    | .listComp element generators => do
      checkExpr room element
      generators.forM (checkGenerator (checkExpr room))
    | .template parts => parts.forM (checkExpr room)
    | .field value _ spec => do
      checkExpr room value
      spec.forM (checkExpr room)
    | .unsupported what line => forbid (.unsupported what.label) line

structure Around where
  inLoop : Bool
  inFunction : Bool
deriving Repr, DecidableEq

def checkStmt : Nat → Around → Stmt → Check
  | 0, _, _ => .error .tooDeep
  | room + 1, around, s =>
    match s with
    | .funcDef name params defaults body plain decorated line => do
      if decorated then forbid .decorator line
      if !plain then forbid .parameters line
      checkName name line
      params.forM (checkName · line)
      defaults.forM (checkExpr room)
      body.forM (checkStmt room ⟨false, true⟩)
    | .giveBack value line => do
      if !around.inFunction then forbid .returnOutside line
      value.forM (checkExpr room)
    | .pass => .ok ()
    | .expr e => checkExpr room e
    | .assign targets value => do
      checkTargets targets
      targets.forM (checkExpr room)
      checkExpr room value
    | .augAssign target o value line => do
      if !target.isPlainTarget then forbid .target line
      checkExpr room target
      checkOperator o
      checkExpr room value
    | .branch test body orelse => do
      checkExpr room test
      body.forM (checkStmt room around)
      orelse.forM (checkStmt room around)
    | .whileLoop test body orelse => do
      checkExpr room test
      body.forM (checkStmt room { around with inLoop := true })
      orelse.forM (checkStmt room around)
    | .forLoop target iter body orelse => do
      -- The target's own parts are not walked.
      checkTarget target
      checkExpr room iter
      body.forM (checkStmt room { around with inLoop := true })
      orelse.forM (checkStmt room around)
    | .leave line => if around.inLoop then .ok () else forbid .breakOutside line
    | .next line => if around.inLoop then .ok () else forbid .continueOutside line
    | .unsupported what line => forbid (.unsupported what.label) line

def Module.check (m : Module) : Check := m.forM (checkStmt maxNesting ⟨false, false⟩)

end ScriptArena.Script
