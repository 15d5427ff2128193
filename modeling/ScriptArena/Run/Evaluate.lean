import ScriptArena.Run.DictMethod
import ScriptArena.Run.ListMethod

namespace ScriptArena

open Script (Expr Stmt)

inductive Flow where
  | normal
  | broke
  | continued
  | returned (v : Value)
deriving Inhabited

def Script.Construct.className : Script.Construct → String
  | .classBlock => "ClassDef" | .tryBlock => "Try" | .tryGroup => "TryStar"
  | .withBlock => "With" | .raiseSignal => "Raise" | .assertion => "Assert"
  | .deletion => "Delete" | .globalNames => "Global" | .nonlocalNames => "Nonlocal"
  | .importNames => "Import" | .importFrom => "ImportFrom"
  | .asyncFunction => "AsyncFunctionDef" | .asyncLoop => "AsyncFor" | .asyncWith => "AsyncWith"
  | .matchBlock => "Match" | .typedAssign => "AnnAssign" | .lambda => "Lambda"
  | .generator => "GeneratorExp" | .setComp => "SetComp" | .dictComp => "DictComp"
  | .set => "Set" | .yield => "Yield" | .yieldFrom => "YieldFrom" | .await => "Await"
  | .starred => "Starred" | .namedExpr => "NamedExpr"

inductive Callee where
  | function (at_ : Nat)
  | builtin (b : Builtin)
  | textMethod (m : TextMethod) (s : String)
  | listMethod (m : ListMethod) (at_ : Nat)
  | dictMethod (m : DictMethod) (at_ : Nat)
  | other (type : String)

namespace Callee

def ofValue : Value → Callee
  | .function i => .function i
  | .builtin b => .builtin b
  | v => .other v.typeName

-- Only texts, lists and mappings have methods.
def method? (target : Value) (name : String) : Option Callee :=
  match target with
  | .str s => (TextMethod.all.find? (·.name == name)).map (.textMethod · s)
  | .list i => (ListMethod.all.find? (·.name == name)).map (.listMethod · i)
  | .dict i => (DictMethod.all.find? (·.name == name)).map (.dictMethod · i)
  | _ => none

def ofMethod (target : Value) (name : String) : Except Trouble Callee :=
  match method? target name with
  | some c => .ok c
  | none => .error (.failure (.noAttribute target.typeName name))

end Callee

namespace Run

-- The rules for nodes one level further in: expressions and statements in a scope.
structure Rules where
  eval : Nat → Expr → Run Value
  exec : Nat → Stmt → Run Flow

def constant : Script.Constant → Value
  | .none => .none
  | .bool b => .bool b
  | .int n => .int n
  | .float x => .ofFloat x
  | .imaginary x => .ofComplex 0.0 x
  | .text s => .str s
  | .bytes b => .bytes b
  | .ellipsis => .ellipsis

def isTrue (v : Value) : Run Bool := look (v.isTrue ·)

def lookUp (scope : Nat) (name : String) : Run Value := do
  match ← look (·.lookup? scope name) with
  | some v => return v
  | none => throw (.failure (.unboundName name))

def bind (scope : Nat) (name : String) (v : Value) : Run Unit := modify (·.bind scope name v)

-- An operation is guarded before it is carried out.
def operate (op : Script.Operator) (a b : Value) : Run Value := do
  guarded fun l h => Guard.binary h l op a b
  match op.foreign? with
  | some name => throw (.noOperator name)
  | none => keep (← ask fun h => Value.binary h op a b)

def negated (op : Script.UnaryOperator) (v : Value) : Run Value :=
  match op with
  | .not => return .bool !(← isTrue v)
  | .negative => do own (← settle v.negate)
  | .positive | .invert => settle v.posit

-- Repeat a body while a test holds. The flow is `broke` if the body left the loop.
def repeatWhile (test : Run Bool) (body : Run Flow) : Run Flow :=
  loop
    (fun () => do if ← test then return .inl () else return .inr .normal)
    (fun () => do
      match ← body with
      | .normal | .continued => return .inl ()
      | flow => return .inr flow) ()

-- Once a loop has ended by itself, what is to follow it is run.
def thenElse (flow : Flow) (orelse : Run Flow) : Run Flow :=
  match flow with
  | .normal | .continued => orelse
  | .broke => return .normal
  | .returned v => return .returned v

-- The parameters that have a default stand at the end.
def defaultFor? (c : Closure) (place : Nat) : Option Value :=
  let first := c.params.length - c.defaults.length
  if first ≤ place then c.defaults[place - first]? else none

def bindNamed (c : Closure) : List (String × Value) → Frame → Except Trouble Frame
  | [], f => .ok f
  | (key, v) :: rest, f =>
    if !c.params.contains key then .error (.failure (.unexpectedKeyword c.name key))
    else if (f.find? key).isSome then .error (.failure (.repeatedArgument c.name key))
    else bindNamed c rest (f.bind key v)

def bindDefaults (c : Closure) : List (String × Nat) → Frame → Except Trouble Frame
  | [], f => .ok f
  | (key, place) :: rest, f =>
    if (f.find? key).isSome then bindDefaults c rest f
    else match defaultFor? c place with
      | some v => bindDefaults c rest (f.bind key v)
      | none => .error (.failure (.missingArgument c.name key))

-- The scope in which the body of a function starts: arguments by position, then by name, then
-- defaults.
def bindParameters (c : Closure) (args : Arguments) : Except Trouble Frame := do
  let n := args.positional.length
  if c.params.length < n then throw (.failure (.tooManyArguments c.name c.params.length n))
  let f : Frame := ⟨#[], some c.scope⟩
  let f := (c.params.zip args.positional).foldl (fun f (key, v) => f.bind key v) f
  let f ← bindNamed c args.named f
  bindDefaults c c.params.zipIdx f

namespace Rules

def block (r : Rules) (scope : Nat) : List Stmt → Run Flow
  | [] => return .normal
  | s :: rest => do
    match ← r.exec scope s with
    | .normal => block r scope rest
    | flow => return flow

def callFunction (r : Rules) (at_ : Nat) (args : Arguments) : Run Value := do
  let c ← look (·.closureAt at_)
  let frame ← settle (bindParameters c args)
  checkDepth
  deeper do
    let scope ← newFrame frame
    match ← r.block scope c.body with
    | .returned v => return v
    | _ => return .none

-- The name under which a spread mapping would be passed on.
def spreadName : String := "None"

def callOther (call : Arguments → Run Value) (args : Arguments) : Run Value := do
  if args.named.any (·.1 == spreadName) then throw (.type "keywords must be strings")
  let v ← call args
  checkTime
  return v

def call (r : Rules) (callee : Callee) (args : Arguments) : Run Value :=
  match callee with
  | .function i => r.callFunction i args
  | .builtin b => callOther b.call args
  | .textMethod m s => callOther (m.call s) args
  | .listMethod m i => callOther (m.call i) args
  | .dictMethod m i => callOther (m.call i) args
  | .other type => throw (.failure (.notCallable type))

def evalArguments (r : Rules) (scope : Nat) (args : List Expr) (keywords : List Script.Keyword) :
    Run Arguments := do
  let positional ← args.mapM (r.eval scope)
  let named ← keywords.foldlM (fun named k => do
    match k with
    | .named key e => return Arguments.name named key (← r.eval scope e)
    | .spread e => return Arguments.name named spreadName (← r.eval scope e)) []
  return ⟨positional, named⟩

def evalCallee (r : Rules) (scope : Nat) : Expr → Run Callee
  | .attribute target member _ => do
    let v ← r.eval scope target
    settle (Callee.ofMethod v member)
  | e => return .ofValue (← r.eval scope e)

def evalBound (r : Rules) (scope : Nat) : Option Expr → Run Value
  | none => return .none
  | some e => r.eval scope e

def evalKey (r : Rules) (scope : Nat) : Expr → Run Subscript
  | .slice lower upper step _ => do
    let lower ← r.evalBound scope lower
    let upper ← r.evalBound scope upper
    return .slice lower upper (← r.evalBound scope step)
  | e => return .item (← r.eval scope e)

def setItem (container : Value) (key : Subscript) (v : Value) : Run Unit := do
  let c ← ask fun h => Value.assignment h container key v
  change c.apply

def unpack (v : Value) (expected : Nat) : Run (List Value) := do
  let items ← collect v
  if expected < items.size then throw (.failure (.tooManyValues expected))
  if items.size < expected then throw (.failure (.tooFewValues expected items.size))
  return items.toList

mutual

def assign (r : Rules) (scope : Nat) : Expr → Value → Run Unit
  | .name id _, v => bind scope id v
  | .tuple targets, v | .list targets, v => do
    assignEach r scope targets (← unpack v targets.length)
  | .subscript container key, v => do
    let container ← r.eval scope container
    setItem container (← r.evalKey scope key) v
  | _, _ => throw .noTarget

def assignEach (r : Rules) (scope : Nat) : List Expr → List Value → Run Unit
  | t :: ts, v :: vs => do
    assign r scope t v
    assignEach r scope ts vs
  | _, _ => return ()

end

def augment (r : Rules) (scope : Nat) (op : Script.Operator) (v : Value) : Expr → Run Unit
  | .name id _ => do
    let current ← lookUp scope id
    bind scope id (← operate op current v)
  | .subscript container key => do
    let container ← r.eval scope container
    let key ← r.evalKey scope key
    let current ← keep (← ask fun h => container.getItem h key)
    setItem container key (← operate op current v)
  | _ => throw .noTarget

def evalEntries (r : Rules) (scope : Nat) : List Script.Entry → Dict → Run Dict
  | [], d => return d
  | .pair key value :: rest, d => do
    let key ← r.eval scope key
    let v ← r.eval scope value
    evalEntries r scope rest (d.insert (← settle key.key?) key v)
  | .spread _ :: _, _ => throw (.noRule "NoneType" none)

-- The first operand that settles the matter, or the last one.
def evalUntil (r : Rules) (scope : Nat) (settled : Bool) : List Expr → Value → Run Value
  | [], v => return v
  | e :: rest, _ => do
    let v ← r.eval scope e
    if (← isTrue v) = settled then return v else evalUntil r scope settled rest v

def evalLinks (r : Rules) (scope : Nat) : Value → List Script.Link → Run Value
  | _, [] => return .bool true
  | left, .mk op e :: rest => do
    let right ← r.eval scope e
    if ← ask fun h => Value.compareBy h op left right then evalLinks r scope right rest
    else return .bool false

def allTrue (r : Rules) (scope : Nat) : List Expr → Run Bool
  | [] => return true
  | e :: rest => do
    if ← isTrue (← r.eval scope e) then allTrue r scope rest else return false

-- The items are put into the list at the place.
def comprehend (r : Rules) (scope : Nat) (element : Expr) (at_ : Nat) :
    List Script.Generator → Run Unit
  | [] => do
    let v ← r.eval scope element
    change (·.modifyList at_ (·.push v))
    guarded fun l h => Guard.checkSize l .comprehension (h.listAt at_).size
  | .mk target iter conditions _ :: rest => do
    foldItems (fun _ v => do
      r.assign scope target v
      if ← r.allTrue scope conditions then
        comprehend r scope element at_ rest
        return .yield ()
      else return .yield ()) (← r.eval scope iter) ()

def convert (how : Script.Conversion) (v : Value) : Run Value :=
  match how with
  | .plain => return v
  | .text => return .str (← ask fun h => v.text h)
  | .quoted => return .str (← ask fun h => v.quoted h)
  | .asciiQuoted => return .str (← ask fun h => v.asciiQuoted h)

def evalField (r : Rules) (scope : Nat) (e : Expr) (how : Script.Conversion)
    (spec : Option Expr) : Run Value := do
  let v ← r.eval scope e
  let _ ← guarded fun l h => Guard.textSize h l v
  let v ← convert how v
  let spec ← match spec with
    | none => pure ""
    | some e => toText (← r.eval scope e)
  guarded fun l _ => Guard.formatSpec l spec
  return .str (← ask fun h => v.formatted h spec)

def evalExpr (r : Rules) (scope : Nat) (e : Expr) : Run Value :=
  match e with
  | .const c => return constant c
  | .name id _ => lookUp scope id
  | .list items => do newList (← items.mapM (r.eval scope)).toArray
  | .tuple items => do own (.tuple none (← items.mapM (r.eval scope)))
  | .dict entries _ => do newDict (← r.evalEntries scope entries .empty)
  | .binary left op right => do
    let a ← r.eval scope left
    operate op a (← r.eval scope right)
  | .unary op operand => do negated op (← r.eval scope operand)
  | .allOf operands => r.evalUntil scope false operands .none
  | .anyOf operands => r.evalUntil scope true operands .none
  | .compare left links => do r.evalLinks scope (← r.eval scope left) links
  | .conditional test body orelse => do
    if ← isTrue (← r.eval scope test) then r.eval scope body else r.eval scope orelse
  | .call callee args keywords _ => do
    let callee ← r.evalCallee scope callee
    r.call callee (← r.evalArguments scope args keywords)
  | .subscript container key => do
    let container ← r.eval scope container
    let key ← r.evalKey scope key
    keep (← ask fun h => container.getItem h key)
  | .listComp element generators => do
    let at_ ← look (·.lists.size)
    let result ← newList #[]
    let inner ← newFrame ⟨#[], some scope⟩
    r.comprehend inner element at_ generators
    return result
  | .template parts => do
    let shown ← parts.mapM fun part => do return Value.str (← toText (← r.eval scope part))
    return .str (← joinTexts "" shown)
  | .field value how spec => r.evalField scope value how spec
  | .attribute _ _ line => throw (.noRule "Attribute" line)
  | .slice _ _ _ line => throw (.noRule "Slice" line)
  | .unsupported what line => throw (.noRule what.className line)

def define (r : Rules) (scope : Nat) (name : String) (params : List String)
    (defaults : List Expr) (body : List Stmt) (line : Nat) : Run Unit := do
  let defaults ← defaults.mapM (r.eval scope)
  let v ← allocate (·.newClosure ⟨name, params, defaults, body, line, scope⟩)
  bind scope name v

-- One round of a loop. A body that went through, or to its end, lets the loop go on.
def round (flow : Flow) : ForInStep Flow :=
  match flow with
  | .normal | .continued => .yield .normal
  | flow => .done flow

def execStmt (r : Rules) (scope : Nat) (s : Stmt) : Run Flow := do
  tick
  match s with
  | .funcDef name params defaults body _ _ line =>
    r.define scope name params defaults body line
    return .normal
  | .giveBack value _ => return .returned (← r.evalBound scope value)
  | .pass => return .normal
  | .expr e =>
    let _ ← r.eval scope e
    return .normal
  | .assign targets value =>
    let v ← r.eval scope value
    for target in targets do r.assign scope target v
    return .normal
  | .augAssign target op value _ =>
    r.augment scope op (← r.eval scope value) target
    return .normal
  | .branch test body orelse =>
    if ← isTrue (← r.eval scope test) then r.block scope body else r.block scope orelse
  | .whileLoop test body orelse =>
    let flow ← repeatWhile (do isTrue (← r.eval scope test)) (r.block scope body)
    thenElse flow (r.block scope orelse)
  | .forLoop target iter body orelse =>
    let flow ← foldItems (fun _ v => do
      r.assign scope target v
      return round (← r.block scope body)) (← r.eval scope iter) .normal
    thenElse flow (r.block scope orelse)
  | .leave _ => return .broke
  | .next _ => return .continued
  | .unsupported what line => throw (.noRule what.className line)

end Rules

-- How deep nodes and calls may nest while a submission runs, which stands for the host's limit on
-- recursion. The rules are given for every depth.
def maxRunDepth : Nat := 1000

def rules : Nat → Rules
  | 0 => ⟨fun _ _ => throw .tooDeep, fun _ _ => throw .tooDeep⟩
  | room + 1 =>
    let inner := rules room
    ⟨fun scope e => do enter; inner.evalExpr scope e, fun scope s => do enter; inner.execStmt scope s⟩

end Run
end ScriptArena
