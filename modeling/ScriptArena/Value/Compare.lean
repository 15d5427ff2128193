import ScriptArena.Value.Heap

namespace ScriptArena

-- How deep comparing and printing follow containers, which stands for the host's limit on recursion.
def maxValueDepth : Nat := 900

inductive OrderOp where
  | lt | le | gt | ge
deriving Repr, DecidableEq

namespace OrderOp

def symbol : OrderOp → String
  | .lt => "<" | .le => "<=" | .gt => ">" | .ge => ">="

def holds : OrderOp → Ordering → Bool
  | .lt, o => o == .lt
  | .le, o => o != .gt
  | .gt, o => o == .gt
  | .ge, o => o != .lt

end OrderOp

namespace Value

def compareFloats (x y : Float) : Option Ordering :=
  if x < y then some .lt else if y < x then some .gt else if x == y then some .eq
  else Option.none

def compareReals? : Value → Value → Option (Option Ordering)
  | .float x, .float y => some (compareFloats x y)
  | .float x, b => b.int?.map fun n =>
    (Number.Binary64.compareInt n x).map Ordering.swap
  | a, .float y => a.int?.map fun n => Number.Binary64.compareInt n y
  | a, b => do
    let m ← a.int?
    let n ← b.int?
    return some (compare m n)

def isReal : Value → Bool
  | .bool _ | .int _ | .float _ => true
  | _ => false

-- Equality of numbers; none if one side is no number.
def equalNumbers? : Value → Value → Option Bool
  | .complex a b, .complex c d => some (a.value == c.value && b.value == d.value)
  | .complex a b, v | v, .complex a b =>
    if v.isReal then
      some (b.value == 0.0 && (compareReals? (.float a) v).join == some .eq)
    else Option.none
  | a, b => (compareReals? a b).map (· == some .eq)

-- The variables that a scope sees, the outermost first; an inner binding takes the place of
-- an outer one.
def visible (h : Heap) (scope : Nat) : List (String × Value) :=
  let frames := h.scopes (scope + 1) scope
  let outer : Frame := ⟨(Builtin.all.map fun b => (b.name, Value.builtin b)).toArray, Option.none⟩
  (frames.reverse.foldl (fun (acc : Frame) f =>
    f.vars.foldl (fun acc (name, v) => acc.bind name v) acc) outer).vars.toList

-- Items count as equal when they are the same object.
def sameOr (equal : Value → Value → Except Trouble Bool) (a b : Value) : Except Trouble Bool :=
  if a.same b then .ok true else equal a b

def equalLists (item : Value → Value → Except Trouble Bool) (xs ys : List Value) :
    Except Trouble Bool :=
  if xs.length ≠ ys.length then .ok false else (xs.zip ys).allM fun (x, y) => item x y

def equalEntries (item : Value → Value → Except Trouble Bool) (d e : Dict) : Except Trouble Bool :=
  if d.size ≠ e.size then .ok false
  else d.toList.allM fun (k, v) => do
    match e.find? (← k.key?) with
    | some w => item w v
    | Option.none => return false

-- A key is in a view of keys, and an entry in a view of entries.
def memberOfView (item : Value → Value → Except Trouble Bool) (d : Dict) (x : Value) :
    ViewKind → Except Trouble Bool
  | .keys => do return d.contains (← x.key?)
  | .values => (d.shown .values).anyM fun v => item v x
  | .items =>
    match x with
    | .tuple _ [k, v] => do
      match d.find? (← k.key?) with
      | some w => item w v
      | Option.none => return false
    | _ => .ok false

-- Is an item among the items of a set, or in a view? No other value is compared as a set.
def memberOfSet (h : Heap) (item : Value → Value → Except Trouble Bool) (container x : Value) :
    Except Trouble Bool :=
  match container with
  | .set _ xs => do return (← keyList xs).contains (← x.key?)
  | .view _ kind i => memberOfView item (h.dictAt i) x kind
  | _ => .ok false

-- The items of a value that is compared as a set.
def setItems? (h : Heap) : Value → Option (List Value)
  | .set _ xs => some xs
  | .view _ .keys i => some ((h.dictAt i).shown .keys)
  | .view _ .items i => some ((h.dictAt i).shown .items)
  | _ => Option.none

-- Two functions are equal if they come from one definition, with equal defaults, in scopes
-- that see equal values.
def equalClosures (h : Heap) (item : Value → Value → Except Trouble Bool) (f g : Closure) :
    Except Trouble Bool := do
  if f.name ≠ g.name ∨ f.line ≠ g.line then return false
  if !(← equalLists item f.defaults g.defaults) then return false
  if f.scope = g.scope then return true
  let vs := visible h f.scope
  let ws := visible h g.scope
  if vs.length ≠ ws.length then return false
  vs.allM fun (name, v) =>
    match ws.lookup name with
    | some w => item w v
    | Option.none => return false

-- Equality of values that are compared as sets: as many items, and those of one in the other.
def equalSets (h : Heap) (item : Value → Value → Except Trouble Bool) (a b : Value) :
    Except Trouble Bool :=
  match setItems? h a, setItems? h b with
  | some xs, some ys =>
    if xs.length ≠ ys.length then .ok false else xs.allM (memberOfSet h item b)
  | _, _ => .ok false

-- Of a set and a view, it is the items of the view that are looked for in the set.
def equal (h : Heap) : Nat → Value → Value → Except Trouble Bool
  | 0, _, _ => .error .tooDeep
  | room + 1, a, b =>
    let item := sameOr (equal h room)
    match a, b with
    | .none, .none | .ellipsis, .ellipsis => .ok true
    | .str s, .str t => .ok (s == t)
    | .bytes s, .bytes t => .ok (s == t)
    | .range a b c, .range d e f => .ok (Key.ofRange a b c == Key.ofRange d e f)
    | .tuple _ xs, .tuple _ ys => equalLists item xs ys
    | .list i, .list j => equalLists item (h.listAt i).toList (h.listAt j).toList
    | .dict i, .dict j => equalEntries item (h.dictAt i) (h.dictAt j)
    | .view _ .values _, .view _ .values _ => .ok (a.same b)
    | .set .., .view .. => equalSets h item b a
    | .set .., .set .. | .view .., .set .. | .view .., .view .. => equalSets h item a b
    | .function i, .function j =>
      if i = j then .ok true else equalClosures h item (h.closureAt i) (h.closureAt j)
    | .builtin b, .builtin c => .ok (b == c)
    | a, b => .ok ((equalNumbers? a b).getD false)

def sameOrEqual (h : Heap) (room : Nat) (a b : Value) : Except Trouble Bool :=
  sameOr (equal h room) a b

-- The first place where two lists differ, if both reach that far.
def firstDifference (h : Heap) (room : Nat) :
    List Value → List Value → Except Trouble (Option (Value × Value))
  | x :: xs, y :: ys => do
    if ← sameOrEqual h room x y then firstDifference h room xs ys else return some (x, y)
  | _, _ => return Option.none

-- The order of two values that are compared as sets: the items of the smaller one are in the other.
-- None if one of them is not.
def orderSets? (h : Heap) (item : Value → Value → Except Trouble Bool) (op : OrderOp)
    (a b : Value) : Option (Except Trouble Bool) := do
  let xs ← setItems? h a
  let ys ← setItems? h b
  return match op with
    | .lt => if xs.length < ys.length then xs.allM (memberOfSet h item b) else .ok false
    | .le => if xs.length ≤ ys.length then xs.allM (memberOfSet h item b) else .ok false
    | .gt => if ys.length < xs.length then ys.allM (memberOfSet h item a) else .ok false
    | .ge => if ys.length ≤ xs.length then ys.allM (memberOfSet h item a) else .ok false

def ordered (h : Heap) (op : OrderOp) : Nat → Value → Value → Except Trouble Bool
  | 0, _, _ => .error .tooDeep
  | room + 1, a, b =>
    let refuse : Except Trouble Bool :=
      .error (.failure (.notOrdered op.symbol a.typeName b.typeName))
    let lists (xs ys : List Value) : Except Trouble Bool := do
      match ← firstDifference h room xs ys with
      | some (x, y) => ordered h op room x y
      | Option.none => return op.holds (compare xs.length ys.length)
    match a, b with
    | .str s, .str t => .ok (op.holds (compare s t))
    | .bytes s, .bytes t => .ok (op.holds (compare s t))
    | .tuple _ xs, .tuple _ ys => lists xs ys
    | .list i, .list j => lists (h.listAt i).toList (h.listAt j).toList
    | a, b =>
      match compareReals? a b with
      | some o => .ok ((o.map op.holds).getD false)
      | Option.none => (orderSets? h (sameOrEqual h room) op a b).getD refuse

end Value
end ScriptArena
