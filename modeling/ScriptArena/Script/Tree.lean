namespace ScriptArena.Script

-- Constructs that the language has and exercises may not use.
inductive Construct where
  | classBlock | tryBlock | tryGroup | withBlock | raiseSignal | assertion | deletion
  | globalNames | nonlocalNames | importNames | importFrom | asyncFunction | asyncLoop
  | asyncWith | matchBlock | typedAssign
  | lambda | generator | setComp | dictComp | set | yield | yieldFrom | await | starred
  | namedExpr
deriving Repr, DecidableEq

inductive Constant where
  | none
  | bool (b : Bool)
  | int (n : Nat)
  | float (x : Float)
  | imaginary (x : Float)
  | text (s : String)
  | bytes (b : List UInt8)
  | ellipsis
deriving Repr

inductive Operator where
  | add | sub | mul | div | floorDiv | mod | pow
  | matMul | bitAnd | bitOr | bitXor | leftShift | rightShift
deriving Repr, DecidableEq

inductive UnaryOperator where
  | not | negative | positive | invert
deriving Repr, DecidableEq

inductive Comparator where
  | eq | ne | lt | le | gt | ge | isIn | notIn | same | notSame
deriving Repr, DecidableEq

inductive Conversion where
  | plain | text | quoted | asciiQuoted
deriving Repr, DecidableEq

mutual

inductive Expr where
  | const (c : Constant)
  | name (id : String) (line : Nat)
  | list (items : List Expr)
  | tuple (items : List Expr)
  | dict (entries : List Entry) (line : Nat)
  | binary (left : Expr) (op : Operator) (right : Expr)
  | unary (op : UnaryOperator) (operand : Expr)
  | allOf (operands : List Expr)
  | anyOf (operands : List Expr)
  | compare (left : Expr) (links : List Link)
  | conditional (test body orelse : Expr)
  | call (callee : Expr) (args : List Expr) (keywords : List Keyword) (line : Nat)
  | attribute (value : Expr) (member : String) (line : Nat)
  | subscript (container key : Expr)
  | slice (lower upper step : Option Expr) (line : Nat)
  | listComp (element : Expr) (generators : List Generator)
  | template (parts : List Expr)
  | field (value : Expr) (conversion : Conversion) (spec : Option Expr)
  | unsupported (what : Construct) (line : Nat)

-- An entry of a mapping display; without a key it spreads another mapping.
inductive Entry where
  | pair (key value : Expr)
  | spread (value : Expr)

-- One step of a chained comparison.
inductive Link where
  | mk (op : Comparator) (right : Expr)

-- A keyword argument; without a name it spreads a mapping.
inductive Keyword where
  | named (name : String) (value : Expr)
  | spread (value : Expr)

-- One `for` clause of a comprehension with its conditions.
inductive Generator where
  | mk (target iter : Expr) (conditions : List Expr) (isAsync : Bool)

end

instance : Inhabited Expr := ⟨.const .none⟩

-- The line that a message about a node names.
def Expr.line? : Expr → Option Nat
  | .name _ n | .dict _ n | .call _ _ _ n | .attribute _ _ n | .slice _ _ _ n
  | .unsupported _ n => some n
  | _ => none

inductive Stmt where
  | funcDef (name : String) (params : List String) (defaults : List Expr) (body : List Stmt)
      (plain decorated : Bool) (line : Nat)
  | giveBack (value : Option Expr) (line : Nat)
  | pass
  | expr (e : Expr)
  | assign (targets : List Expr) (value : Expr)
  | augAssign (target : Expr) (op : Operator) (value : Expr) (line : Nat)
  | branch (test : Expr) (body orelse : List Stmt)
  | whileLoop (test : Expr) (body orelse : List Stmt)
  | forLoop (target iter : Expr) (body orelse : List Stmt)
  | leave (line : Nat)
  | next (line : Nat)
  | unsupported (what : Construct) (line : Nat)

instance : Inhabited Stmt := ⟨.pass⟩

abbrev Module := List Stmt

-- The functions that a module defines at its top level, in the order of their definitions.
def functionNames (m : Module) : List String :=
  m.filterMap fun
    | .funcDef name .. => some name
    | _ => none

end ScriptArena.Script
