import ScriptArena.Run.Arguments
import ScriptArena.Run.Guard
import ScriptArena.Run.Iteration
import ScriptArena.Value.IntText
import ScriptArena.Value.Sorting

namespace ScriptArena
namespace Run

def toText (v : Value) : Run String := guarded fun l h => Guard.text h l v

-- Texts with a mark between them. Parts that are no texts are not counted, and refused.
def joinTexts (mark : String) (parts : List Value) : Run String := do
  guarded fun l _ => Guard.joined l mark.length parts
  for (v, place) in parts.zipIdx do
    match v with
    | .str _ => pure ()
    | v => throw (.type s!"sequence item {place}: expected str instance, {v.typeName} found")
  return mark.intercalate (parts.filterMap fun
    | .str s => some s
    | _ => none)

def signature (name : String) (params : List String) (required : Nat) (rest : Bool)
    (keywordOnly : List String) : Arguments.Signature :=
  ⟨"Interpreter._builtin_" ++ name, true, params, required, rest, keywordOnly⟩

-- What is printed between and behind the texts; nothing given means the default.
def orDefault (default : String) : Option Value → Value
  | none | some .none => .str default
  | some v => v

-- Only texts can be put between the printed ones, but anything with a length is counted first.
def joinBy (mark : Value) (parts : List String) : Run Value := do
  let some size ← look (fun h => mark.length? h) | throw (.failure (.noLength mark.typeName))
  let shown := parts.map Value.str
  guarded fun l _ => Guard.joined l size shown
  match mark with
  | .str s => return .str (s.intercalate parts)
  | .bytes _ =>
    if parts.isEmpty then return .bytes []
    else throw (.type "sequence item 0: expected a bytes-like object, str found")
  | v => throw (.failure (.noAttribute v.typeName "join"))

-- Add to what was printed. Once all lines are used up nothing is added, whatever it is.
def emit (made : Made) : Run Unit := do
  let l ← read
  match made with
  | .value (.str s) => modify fun m => { m with transcript := m.transcript.print l s }
  | _ =>
    if (← get).transcript.isFull l then
      modify fun m => { m with transcript := { m.transcript with truncated := true, idle := true } }
    else throw (.failure (.cannotConcat "str" "bytes"))

def printValues (args : Arguments) : Run Value := do
  let b ← settle ((signature "print" [] 0 true ["sep", "end"]).bind args)
  let (mark, ending) := match b.keywordOnly with
    | [mark, ending] => (orDefault " " mark, orDefault "\n" ending)
    | _ => (.str " ", .str "\n")
  let parts ← b.rest.mapM toText
  let whole ← joinBy mark parts
  emit (← ask fun h => Value.concat h whole ending)
  return .none

def lengthOf (args : Arguments) : Run Value := do
  let v ← settle (args.one "len")
  match ← look (fun h => v.length? h) with
  | none => throw (.failure (.noLength v.typeName))
  | some n =>
    if 0x8000000000000000 ≤ n then throw (.raised .overflow "Python int too large to convert to C ssize_t")
    return .int n

def makeRange (args : Arguments) : Run Value := settle do
  let b ← (signature "range" [] 0 true []).bind args
  match b.rest with
  | [] => throw (.type "range expected at least 1 argument, got 0")
  | [stop] => return .range 0 (← stop.toIndex) 1
  | [start, stop] => return .range (← start.toIndex) (← stop.toIndex) 1
  | [start, stop, step] =>
    let start ← start.toIndex
    let stop ← stop.toIndex
    let step ← step.toIndex
    if step = 0 then throw (.value "range() arg 3 must not be zero")
    return .range start stop step
  | vs => throw (.type s!"range expected at most 3 arguments, got {vs.length}")

def sumOf (args : Arguments) : Run Value := do
  let b ← settle ((signature "sum" ["iterable", "start"] 1 false []).bind args)
  match b.params with
  | [some items, start] =>
    foldItems (fun total v => do
      return .yield (← keep (← ask fun h => Value.binary h .add total v)))
      items (start.getD (.int 0))
  | _ => return .none

-- The first of the items that no later one beats.
def extreme (name : String) (op : OrderOp) (args : Arguments) : Run Value := do
  let b ← settle ((signature name [] 0 true []).bind args)
  let items ← match b.rest with
    | [] => throw (.type s!"{name} expected at least 1 argument, got 0")
    | [v] => pure (← collect v).toList
    | vs => pure vs
  match items with
  | [] => throw (.value s!"{name}() arg is an empty sequence")
  | first :: rest =>
    rest.foldlM (fun best v => do
      return if ← ask fun h => Value.ordered h op maxValueDepth v best then v else best) first

def absolute (args : Arguments) : Run Value := do
  own (← settle do (← args.one "abs").magnitude)

def makeList (args : Arguments) : Run Value := do
  let b ← settle ((signature "list" ["iterable"] 0 false []).bind args)
  newList (← collect ((b.params.head?.join).getD (.tuple none [])))

def sortByKeys (falling : Bool) (keyed : List (Value × Value)) :
    Run (List Value × Option Trouble) :=
  look fun h =>
    let less (x y : Value × Value) := Value.ordered h .lt maxValueDepth x.1 y.1
    let (sorted, e) := Sorting.sortBy less falling keyed
    (sorted.map (·.2), e)

def sortedList (args : Arguments) : Run Value := do
  let b ← settle ((signature "sorted" ["iterable", "reverse"] 1 false []).bind args)
  match b.params with
  | [some items, falling] =>
    let items ← collect items
    let falling ← settle ((falling.getD (.bool false)).toFlag)
    match ← sortByKeys falling (items.toList.map fun v => (v, v)) with
    | (_, some e) => throw e.toFault
    | (items, none) => newList items.toArray
  | _ => return .none

def makeText (args : Arguments) : Run Value := do
  let b ← settle ((signature "str" ["value"] 0 false []).bind args)
  return .str (← toText ((b.params.head?.join).getD (.str "")))

def makeInteger (args : Arguments) : Run Value := settle do
  let n := args.positional.length
  if args.named.isEmpty && 2 < n then
    throw (.type s!"int expected at most 2 arguments, got {n}")
  match ← args.optional "int" 1 ["base"] 2 with
  | [some v, none] => return .int (← IntText.ofValue v)
  | [some v, some base] => return .int (← IntText.ofValueInBase (← base.toIndex) v)
  | [none, some _] => throw (.type "int() missing string argument")
  | _ => return .int 0

end Run

open Run in
-- Call a builtin. The name of the object that a builtin belongs to is taken.
def Builtin.call (b : Builtin) (args : Arguments) : Run Value :=
  if args.named.any (·.1 == "self") then
    throw (.failure (.repeatedArgument "_Builtin.__call__" "self"))
  else match b with
    | .print => printValues args
    | .len => lengthOf args
    | .range => makeRange args
    | .sum => sumOf args
    | .min => extreme "min" .lt args
    | .max => extreme "max" .gt args
    | .abs => absolute args
    | .list => makeList args
    | .sorted => sortedList args
    | .str => makeText args
    | .int => makeInteger args

end ScriptArena
