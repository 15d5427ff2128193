import ScriptArena.Run.TextMethod

namespace ScriptArena

inductive ListMethod where
  | append | extend | insert | pop | remove | index | count | reverse | sort | copy | clear
deriving Repr, DecidableEq

namespace ListMethod
open Run

def name : ListMethod → String
  | .append => "append" | .extend => "extend" | .insert => "insert" | .pop => "pop"
  | .remove => "remove" | .index => "index" | .count => "count" | .reverse => "reverse"
  | .sort => "sort" | .copy => "copy" | .clear => "clear"

def all : List ListMethod :=
  [.append, .extend, .insert, .pop, .remove, .index, .count, .reverse, .sort, .copy, .clear]

def callee (m : ListMethod) : String := "list." ++ m.name

-- Places beyond either end are moved to it.
def insertInto (i : Nat) (place v : Value) : Run Unit := do
  let n ← settle place.toSize
  change fun h => h.modifyList i fun items =>
    let n := if n < 0 then max (n + items.size) 0 else min n items.size
    Sorting.insertAt items n.toNat v

def popFrom (i : Nat) (place : Value) : Run Value := do
  let n ← settle place.toSize
  let size := (← look (·.listAt i)).size
  if size = 0 then throw (.raised .index "pop from empty list")
  let n := if n < 0 then n + size else n
  if n < 0 ∨ size ≤ n then throw (.failure (.indexOutOfRange "pop index"))
  let v ← look fun h => (h.listAt i)[n.toNat]?.getD .none
  change fun h => h.modifyList i fun items =>
    if n.toNat + 1 = items.size then items.pop
    else items.extract 0 n.toNat ++ items.extract (n.toNat + 1) items.size
  return v

def bound : Option Value → Except Trouble (Option Int)
  | none => .ok none
  | some v => match v.int? with
    | some n => .ok (some n)
    | none => .error (.type "slice indices must be integers or have an __index__ method")

-- The first place of a value in a list, from `pos` on.
def place? (h : Heap) (v : Value) : List Value → Nat → Except Trouble (Option Nat)
  | [], _ => .ok none
  | x :: rest, pos => do
    if ← Value.sameOrEqual h maxValueDepth x v then return some pos
    else place? h v rest (pos + 1)

def indexOf (i : Nat) (args : List Value) : Run Value := do
  let v := args.headD .none
  let start ← settle (bound args[1]?)
  let stop ← settle (bound args[2]?)
  let found ← ask fun h =>
    let items := h.listAt i
    let (start, stop) := stretch items.size start stop
    place? h v (items.extract start.toNat stop.toNat).toList start.toNat
  match found with
  | some n => return .int n
  | none =>
    match ← look fun h => v.quoted h with
    | .ok shown => throw (.value s!"{shown} is not in list")
    | .error _ => throw (.value "")

def removeFirst (i : Nat) (v : Value) : Run Unit := do
  match ← ask fun h => place? h v (h.listAt i).toList 0 with
  | none => throw (.value "list.remove(x): x not in list")
  | some n => change fun h => h.modifyList i fun items =>
      items.extract 0 n ++ items.extract (n + 1) items.size

def countOf (h : Heap) (v : Value) (items : Array Value) : Except Trouble Value := do
  let n ← items.foldlM (fun n x => do
    return if ← Value.sameOrEqual h maxValueDepth x v then n + 1 else n) (0 : Nat)
  return .int n

-- What an item is sorted by. Only builtins can be asked for keys.
def keyOf (rule v : Value) : Run Value :=
  match rule with
  | .none => pure v
  | .builtin b => b.call ⟨[v], []⟩
  | f => throw (.failure (.notCallable f.typeName))

def keyed (rule : Value) (items : List Value) : Run (List (Value × Value)) :=
  items.mapM fun v => return (← keyOf rule v, v)

-- While a list is sorted it is empty, and it is filled again however the sorting ends.
def sortInPlace (i : Nat) (args : Arguments) : Run Unit := do
  let parts ← settle (args.optional "sort" 0 ["key", "reverse"] 0)
  let rule := (parts.head?.join).getD .none
  let falling ← settle (((parts[1]?).join.getD (Value.bool false)).toFlag)
  let items := (← look (·.listAt i)).toList
  let fill (items : List Value) : Run Unit := change (·.modifyList i fun _ => items.toArray)
  fill []
  let pairs ← undoing (·.modifyList i fun _ => items.toArray) (keyed rule items)
  match ← sortByKeys falling pairs with
  | (items, e) =>
    fill items
    match e with
    | some e => throw e.toFault
    | none => pure ()

def call (m : ListMethod) (i : Nat) (args : Arguments) : Run Value := do
  let one : Run Value := settle (args.one m.callee)
  let few (low high : Nat) : Run (List Value) := settle (args.between m.callee m.name low high)
  let plain : Run Unit := settle (args.none_ m.callee)
  match m with
  | .append =>
    let v ← one
    change (·.modifyList i (·.push v))
  | .extend =>
    let items ← itemsOf args
    change (·.modifyList i (· ++ items))
  | .insert =>
    match ← few 2 2 with
    | [place, v] => insertInto i place v
    | _ => pure ()
  | .pop => return ← popFrom i ((← few 0 1).headD (.int (-1)))
  | .remove => removeFirst i (← one)
  | .index => return ← indexOf i (← few 1 3)
  | .count =>
    let v ← one
    return ← ask fun h => countOf h v (h.listAt i)
  | .reverse =>
    plain
    change (·.modifyList i Array.reverse)
  | .sort => sortInPlace i args
  | .copy =>
    plain
    return ← newList (← look (·.listAt i))
  | .clear =>
    plain
    change (·.modifyList i fun _ => #[])
  return .none

end ListMethod
end ScriptArena
