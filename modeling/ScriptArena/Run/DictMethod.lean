import ScriptArena.Run.Builtin

namespace ScriptArena

inductive DictMethod where
  | get | keys | values | items | pop | setdefault | update | copy | clear
deriving Repr, DecidableEq

namespace DictMethod
open Run

def name : DictMethod → String
  | .get => "get" | .keys => "keys" | .values => "values" | .items => "items" | .pop => "pop"
  | .setdefault => "setdefault" | .update => "update" | .copy => "copy" | .clear => "clear"

def all : List DictMethod :=
  [.get, .keys, .values, .items, .pop, .setdefault, .update, .copy, .clear]

def callee (m : DictMethod) : String := "dict." ++ m.name

def second (args : List Value) : Option Value := args[1]?

-- A mapping without entries does not look at the key.
def popFrom (i : Nat) (args : List Value) : Run Value := do
  let key := args.headD .none
  let missing : Run Value := match second args with
    | some v => pure v
    | none => do throw (← look (Value.missingKey · key)).toFault
  let d ← look (·.dictAt i)
  if d.size = 0 then missing
  else
    let k ← settle key.key?
    match d.find? k with
    | some v =>
      change (·.modifyDict i (·.erase k))
      return v
    | none => missing

def setDefault (i : Nat) (args : List Value) : Run Value := do
  let key := args.headD .none
  let v := (second args).getD .none
  let k ← settle key.key?
  match ← look fun h => (h.dictAt i).find? k with
  | some w => return w
  | none =>
    change (·.modifyDict i (·.insert k key v))
    return v

def put (i : Nat) (key v : Value) : Run Unit := do
  let k ← settle key.key?
  change (·.modifyDict i (·.insert k key v))

-- Entries may come as pairs of any kind.
def putPair (i n : Nat) (pair : Value) : Run Unit := do
  match ← look fun h => pair.items? h with
  | none =>
    throw (.type s!"cannot convert dictionary update sequence element #{n} to a sequence")
  | some [key, v] => put i (← own key) (← own v)
  | some parts =>
    throw (.value (s!"dictionary update sequence element #{n} has length {parts.length}; " ++
      "2 is required"))

def updateFrom (i : Nat) (source : Value) : Run Unit := do
  match source with
  | .dict j =>
    for (key, v) in (← look fun h => (h.dictAt j).toList) do put i key v
  | v =>
    match ← look fun h => v.items? h with
    | none => throw (.failure (.notIterable v.typeName))
    | some pairs => for (pair, n) in pairs.zipIdx do putPair i n pair

def mergeInto (i : Nat) (args : Arguments) : Run Value := do
  match args.positional with
  | [] => pure ()
  | [source] => updateFrom i source
  | vs => throw (.type s!"update expected at most 1 argument, got {vs.length}")
  for (key, v) in args.named do put i (.str key) v
  return .none

def call (m : DictMethod) (i : Nat) (args : Arguments) : Run Value := do
  let few (low high : Nat) : Run (List Value) := settle (args.between m.callee m.name low high)
  let plain (v : Value) : Run Value := do
    settle (args.none_ m.callee)
    return v
  let view (kind : ViewKind) : Run Value := do own (← plain (.view none kind i))
  match m with
  | .keys => view .keys
  | .values => view .values
  | .items => view .items
  | .get =>
    let given ← few 1 2
    let k ← settle (given.headD .none).key?
    let found ← look fun h => (h.dictAt i).find? k
    return found.getD ((second given).getD .none)
  | .pop => popFrom i (← few 1 2)
  | .setdefault => setDefault i (← few 1 2)
  | .update => mergeInto i args
  | .copy =>
    let _ ← plain .none
    newDict (← look (·.dictAt i)).copy
  | .clear =>
    let _ ← plain .none
    change (·.modifyDict i fun _ => .empty)
    return .none

end DictMethod
end ScriptArena
