namespace ScriptArena

inductive FailureKind where
  | type | value | index | key | name | attribute | zeroDivision | overflow | runtime
deriving Repr, DecidableEq

-- Causes of failures. The common ones carry what their text mentions; the rest carry their
-- text. Type names are those that the language gives to values.
inductive Failure where
  | unboundName (name : String)
  | noAttribute (type member : String)
  | notCallable (type : String)
  | notIterable (type : String)
  | notContainer (type : String)
  | notSubscriptable (type : String)
  | noItemAssignment (type : String)
  | noLength (type : String)
  | notHashable (type : String)
  | notInteger (type : String)
  | badOperands (op left right : String)
  | badOperand (op type : String)
  | notOrdered (op left right : String)
  | cannotConcat (whole other : String)
  | cannotRepeat (type : String)
  | badIndexType (indexed type : String)
  | badSliceBound
  | indexOutOfRange (what : String)
  | missingKey (shown : Option String)
  | integerDivision
  | integerModulo
  | division
  | floatDivision
  | floatFloorDivision
  | floatModulo
  | numericRange
  | floatTooSmallForInt
  | indexTooLarge
  | tooManyDigits
  | tooManyDigitsRead (digits : Nat)
  | tooManyValues (expected : Nat)
  | tooFewValues (expected got : Nat)
  | tooManyArguments (callee : String) (taken given : Nat)
  | unexpectedKeyword (callee name : String)
  | repeatedArgument (callee name : String)
  | missingArgument (callee name : String)
  | dictSizeChanged
  | dictKeysChanged
  | raised (kind : FailureKind) (text : String)
deriving Repr, DecidableEq

def Failure.kind : Failure → FailureKind
  | .unboundName _ => .name
  | .noAttribute .. => .attribute
  | .notCallable _ | .notIterable _ | .notContainer _ | .notSubscriptable _
  | .noItemAssignment _ | .noLength _ | .notHashable _ | .notInteger _ | .badOperands ..
  | .badOperand .. | .notOrdered .. | .cannotConcat .. | .cannotRepeat _ | .badIndexType ..
  | .badSliceBound | .tooManyArguments .. | .unexpectedKeyword .. | .repeatedArgument ..
  | .missingArgument .. => .type
  | .indexOutOfRange _ | .indexTooLarge => .index
  | .missingKey _ => .key
  | .integerDivision | .integerModulo | .division | .floatDivision | .floatFloorDivision
  | .floatModulo => .zeroDivision
  | .numericRange | .floatTooSmallForInt => .overflow
  | .tooManyDigits | .tooManyDigitsRead _ | .tooManyValues _ | .tooFewValues .. => .value
  | .dictSizeChanged | .dictKeysChanged => .runtime
  | .raised kind _ => kind

def quoted (text : String) : String := "'" ++ text ++ "'"

def Failure.message : Failure → String
  | .unboundName name => s!"name {quoted name} is not defined"
  | .noAttribute type member => s!"{quoted type} object has no attribute {quoted member}"
  | .notCallable type => s!"{quoted type} object is not callable"
  | .notIterable type => s!"{quoted type} object is not iterable"
  | .notContainer type => s!"argument of type {quoted type} is not iterable"
  | .notSubscriptable type => s!"{quoted type} object is not subscriptable"
  | .noItemAssignment type => s!"{quoted type} object does not support item assignment"
  | .noLength type => s!"object of type {quoted type} has no len()"
  | .notHashable type => s!"unhashable type: {quoted type}"
  | .notInteger type => s!"{quoted type} object cannot be interpreted as an integer"
  | .badOperands op left right =>
    s!"unsupported operand type(s) for {op}: {quoted left} and {quoted right}"
  | .badOperand op type => s!"bad operand type for {op}: {quoted type}"
  | .notOrdered op left right =>
    s!"{quoted op} not supported between instances of {quoted left} and {quoted right}"
  | .cannotConcat whole other => s!"can only concatenate {whole} (not \"{other}\") to {whole}"
  | .cannotRepeat type => s!"can't multiply sequence by non-int of type {quoted type}"
  | .badIndexType indexed type =>
    if indexed = "string" then s!"string indices must be integers, not {quoted type}"
    else s!"{indexed} indices must be integers or slices, not {type}"
  | .badSliceBound =>
    "slice indices must be integers or None or have an __index__ method"
  | .indexOutOfRange what => s!"{what} out of range"
  | .missingKey shown => shown.getD ""
  | .integerDivision => "integer division or modulo by zero"
  | .integerModulo => "integer modulo by zero"
  | .division => "division by zero"
  | .floatDivision => "float division by zero"
  | .floatFloorDivision => "float floor division by zero"
  | .floatModulo => "float modulo"
  | .numericRange => "(34, 'Numerical result out of range')"
  | .floatTooSmallForInt => "int too large to convert to float"
  | .indexTooLarge => "cannot fit 'int' into an index-sized integer"
  | .tooManyDigits =>
    "Exceeds the limit (4300 digits) for integer string conversion; " ++
      "use sys.set_int_max_str_digits() to increase the limit"
  | .tooManyDigitsRead digits =>
    "Exceeds the limit (4300 digits) for integer string conversion: value has " ++
      toString digits ++ " digits; use sys.set_int_max_str_digits() to increase the limit"
  | .tooManyValues expected => s!"too many values to unpack (expected {expected})"
  | .tooFewValues expected got =>
    s!"not enough values to unpack (expected {expected}, got {got})"
  | .tooManyArguments callee taken given =>
    s!"{callee}() takes {taken} positional arguments but {given} were given"
  | .unexpectedKeyword callee name =>
    s!"{callee}() got an unexpected keyword argument {quoted name}"
  | .repeatedArgument callee name =>
    s!"{callee}() got multiple values for argument {quoted name}"
  | .missingArgument callee name => s!"{callee}() missing required argument: {quoted name}"
  | .dictSizeChanged => "dictionary changed size during iteration"
  | .dictKeysChanged => "dictionary keys changed during iteration"
  | .raised _ text => text

inductive Oversize where
  | sequence
  | comprehension
  | joined
  | formatted
  | width
  | starWidth
  | text
  | exponent (shown : String)
  | integer
deriving Repr, DecidableEq

def Oversize.message : Oversize → String
  | .sequence => "Sequence too long"
  | .comprehension => "List comprehension result too long"
  | .joined => "Joined string too long"
  | .formatted => "Formatted string too long"
  | .width => "Format width too large"
  | .starWidth => "'*' widths are not supported"
  | .text => "Value too large to convert to text"
  | .exponent shown => s!"Exponent {shown} is too large"
  | .integer => "Integer result too large"

inductive LimitFault where
  | steps (allowed : Int)
  | time (allowed : String)
  | depth (allowed : Int)
  | resource (what : Oversize)
deriving Repr, DecidableEq

def LimitFault.message : LimitFault → String
  | .steps n => s!"Execution stopped after {n} steps"
  | .time text => s!"Execution exceeded {text} seconds"
  | .depth n => s!"Maximum call depth of {n} exceeded"
  | .resource what => what.message

-- Why an operation on values stopped: a result beyond a ceiling on sizes, a failure, or values
-- that nest too deep.
inductive Trouble where
  | oversize (what : Oversize)
  | failure (what : Failure)
  | tooDeep
deriving Repr, DecidableEq

namespace Trouble

def raised (kind : FailureKind) (text : String) : Trouble := .failure (.raised kind text)
def type (text : String) : Trouble := raised .type text
def value (text : String) : Trouble := raised .value text

end Trouble

-- Operations in a row succeed iff each of them does.
theorem bind_eq_ok {α β : Type} {x : Except Trouble α} {f : α → Except Trouble β} {b : β} :
    (x >>= f) = .ok b ↔ ∃ a, x = .ok a ∧ f a = .ok b := by
  cases x with
  | error e => simp [bind, Except.bind]
  | ok a => simp [bind, Except.bind]

-- Why evaluation stopped: a limit, a failure, a construct, a target or an operator without a
-- rule at its place, or nesting beyond what is followed.
inductive Fault where
  | limit (what : LimitFault)
  | failure (what : Failure)
  | noRule (node : String) (line : Option Nat)
  | noTarget
  | noOperator (name : String)
  | tooDeep
deriving Repr, DecidableEq

def Trouble.toFault : Trouble → Fault
  | .oversize what => .limit (.resource what)
  | .failure what => .failure what
  | .tooDeep => .tooDeep

instance : Coe Trouble Fault := ⟨Trouble.toFault⟩

def FailureKind.label : FailureKind → String
  | .type => "TypeError" | .value => "ValueError" | .index => "IndexError"
  | .key => "KeyError" | .name => "NameError" | .attribute => "AttributeError"
  | .zeroDivision => "ZeroDivisionError" | .overflow => "OverflowError"
  | .runtime => "RuntimeError"

namespace Fault

def label : Fault → String
  | .limit (.steps _) => "StepLimitExceeded"
  | .limit (.time _) => "ExecutionTimeout"
  | .limit (.depth _) => "CallDepthExceeded"
  | .limit (.resource _) => "ResourceLimitExceeded"
  | .failure what => what.kind.label
  | .noRule .. | .noTarget => "UnsupportedSyntaxError"
  | .noOperator _ => "KeyError"
  | .tooDeep => "RecursionError"

def raised (kind : FailureKind) (text : String) : Fault := .failure (.raised kind text)
def type (text : String) : Fault := raised .type text
def value (text : String) : Fault := raised .value text

-- The text of a fault that has one.
def message? : Fault → Option String
  | .limit what => some what.message
  | .failure what => some what.message
  | .noRule node none => some s!"{node} is not supported"
  | .noRule node (some line) => some s!"line {line}: {node} is not supported"
  | .noTarget => some "unsupported assignment target"
  | .noOperator name => some ("<class 'ast." ++ name ++ "'>")
  | .tooDeep => none

end Fault
end ScriptArena
