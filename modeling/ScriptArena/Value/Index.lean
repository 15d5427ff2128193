import ScriptArena.Value.Cursor
import ScriptArena.Value.Text

namespace ScriptArena

inductive Subscript where
  | item (v : Value)
  | slice (lower upper step : Value)

-- A result that may be a list, which the heap has yet to hold, or a set, which has yet to be ordered.
inductive Made where
  | value (v : Value)
  | list (items : Array Value)
  | set (items : List Value)

inductive Change where
  | listItem (at_ n : Nat) (v : Value)
  | listItems (at_ : Nat) (items : Array Value)
  | entry (at_ : Nat) (k : Key) (key v : Value)

def Change.apply (h : Heap) : Change → Heap
  | .listItem i n v => h.modifyList i (·.set! n v)
  | .listItems i items =>
    let (items, h) := h.ownAll items.toList
    h.modifyList i fun _ => items.toArray
  | .entry i k key v => h.modifyDict i (·.insert k key v)

-- Indices must fit a signed word of 64 bits.
def fitsIndex (n : Int) : Bool := -0x8000000000000000 ≤ n && n < 0x8000000000000000

-- The positions that a slice picks: `count` of them, `step` apart, from `start` to before
-- `stop`.
structure Picked where
  start : Int
  stop : Int
  step : Int
  count : Nat

namespace Picked

def position (p : Picked) (k : Nat) : Int := p.start + k * p.step

def positions (p : Picked) : List Nat := (List.range p.count).map fun k => (p.position k).toNat

-- A bound counts from the end if it is negative, and is moved into the sequence.
def clamp (length : Nat) (step n : Int) : Int :=
  let n := if n < 0 then n + length else n
  if n < 0 then (if step < 0 then -1 else 0)
  else if length ≤ n then (if step < 0 then length - 1 else length)
  else n

def ofBounds (length : Nat) (lower upper : Option Int) (step : Int) : Picked :=
  let start := match lower with
    | some n => clamp length step n
    | none => if step < 0 then length - 1 else 0
  let stop := match upper with
    | some n => clamp length step n
    | none => if step < 0 then -1 else length
  ⟨start, stop, step, rangeLength start stop step⟩

end Picked

def sliceBound : Value → Except Trouble (Option Int)
  | .none => .ok none
  | v => match v.int? with
    | some n => .ok (some n)
    | none => .error (.failure .badSliceBound)

def picked (length : Nat) (lower upper step : Value) : Except Trouble Picked := do
  let step := (← sliceBound step).getD 1
  if step = 0 then throw (.value "slice step cannot be zero")
  let lower ← sliceBound lower
  let upper ← sliceBound upper
  return Picked.ofBounds length lower upper step

-- The place of an item; negative indices count from the end.
def itemPlace (what outOfRange : String) (length : Nat) (key : Value) : Except Trouble Nat :=
  match key.int? with
  | none => .error (.failure (.badIndexType what key.typeName))
  | some n =>
    if !fitsIndex n then .error (.failure .indexTooLarge)
    else
      let n := if n < 0 then n + length else n
      if 0 ≤ n ∧ n < length then .ok n.toNat
      else .error (.failure (.indexOutOfRange outOfRange))

def pickFrom {α : Type} (items : Array α) (p : Picked) : List α :=
  if p.step = 1 then (items.extract p.start.toNat (p.start.toNat + p.count)).toList
  else p.positions.filterMap (items[·]?)

def charAt (s : String) (i : Nat) : String :=
  String.ofList ((s.toList.drop i).take 1)

def rangeItem (a b c : Int) (key : Value) : Except Trouble Value :=
  match key.int? with
  | none => .error (.failure (.badIndexType "range" key.typeName))
  | some n =>
    let length := rangeLength a b c
    let n := if n < 0 then n + length else n
    if 0 ≤ n ∧ n < length then .ok (.int (a + n * c))
    else .error (.failure (.indexOutOfRange "range object index"))

def rangeSlice (a c : Int) (p : Picked) : Value :=
  .range (a + p.start * c) (a + p.stop * c) (p.step * c)

namespace Value

def getItem (h : Heap) (container : Value) : Subscript → Except Trouble Made
  | .item key =>
    match container with
    | .list i => do
      let items := h.listAt i
      let n ← itemPlace "list" "list index" items.size key
      return .value (items[n]?.getD .none)
    | .tuple _ items => do
      let n ← itemPlace "tuple" "tuple index" items.length key
      return .value (items[n]?.getD .none)
    | .str s => do
      let n ← itemPlace "string" "string index" s.length key
      return .value (.str (charAt s n))
    | .bytes b => do
      let n ← itemPlace "byte" "index" b.length key
      return .value (.int ((b[n]?.getD 0).toNat))
    | .range a b c => do return .value (← rangeItem a b c key)
    | .dict i => do
      match (h.dictAt i).find? (← key.key?) with
      | some v => return .value v
      | Option.none => throw (missingKey h key)
    | v => .error (.failure (.notSubscriptable v.typeName))
  | .slice lower upper step =>
    match container with
    | .list i => do
      let items := h.listAt i
      return .list (pickFrom items (← picked items.size lower upper step)).toArray
    | .tuple _ items => do
      let p ← picked items.length lower upper step
      -- A slice of the whole tuple is that tuple.
      if p.step = 1 ∧ p.count = items.length then return .value container
      return .value (.tuple Option.none (pickFrom items.toArray p))
    | .str s => do
      let p ← picked s.length lower upper step
      return .value (.str (String.ofList (pickFrom s.toList.toArray p)))
    | .bytes b => do
      return .value (.bytes (pickFrom b.toArray (← picked b.length lower upper step)))
    | .range a b c => do
      let p ← picked (rangeLength a b c) lower upper step
      return .value (rangeSlice a c p)
    | .dict _ => .error (.failure (.notHashable "slice"))
    | v => .error (.failure (.notSubscriptable v.typeName))

-- The items that are put in the place of a slice.
def replacement (h : Heap) (complaint : String) (v : Value) : Except Trouble (List Value) :=
  match v.items? h with
  | some items => .ok items
  | Option.none => .error (.type complaint)

-- What becomes of a list when a slice of it is replaced.
def spliced (h : Heap) (items : Array Value) (lower upper step v : Value) :
    Except Trouble (Array Value) := do
  let p ← picked items.size lower upper step
  if p.step = 1 then
    let new ← replacement h "can only assign an iterable" v
    let start := p.start.toNat
    let tail := items.extract (start + p.count) items.size
    return items.extract 0 start ++ new.toArray ++ tail
  else
    let new ← replacement h "must assign iterable to extended slice" v
    if new.length ≠ p.count then
      throw (.value s!"attempt to assign sequence of size {new.length} to extended slice of size {p.count}")
    return (p.positions.zip new).foldl (fun items (n, w) => items.set! n w) items

def assignment (h : Heap) (container : Value) (key : Subscript) (v : Value) :
    Except Trouble Change :=
  match container, key with
  | .list i, .item key => do
    return .listItem i (← itemPlace "list" "list assignment index" (h.listAt i).size key) v
  | .list i, .slice lower upper step => do
    return .listItems i (← spliced h (h.listAt i) lower upper step v)
  | .dict i, .item key => do return .entry i (← key.key?) key v
  | .dict _, .slice .. => .error (.failure (.notHashable "slice"))
  | c, _ => .error (.failure (.noItemAssignment c.typeName))

end Value
end ScriptArena
