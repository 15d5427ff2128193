import ScriptArena.Value.Compare
import ScriptArena.Value.Datum
import ScriptArena.Value.Text

namespace ScriptArena

namespace Datum

mutual

-- A NaN equals no other, and a datum does not say which object it is: it is the key of nothing.
def key? : Datum → Option Key
  | .none => some .none
  | .bool b => some (.num (if b then 1 else 0))
  | .int n => some (.num n)
  | .float x => if x.isNaN then Option.none else some (Key.ofFloat ⟨x, Option.none⟩)
  | .str s => some (.str s)
  | .tuple items => (keys? items).map .tuple
  | .list _ | .dict _ => Option.none

def keys? : List Datum → Option (List Key)
  | [] => some []
  | d :: rest => do return (← key? d) :: (← keys? rest)

end

def isUnder (d : Datum) (key : Option Key) : Bool := key.isSome && d.key? == key

-- A repeated key keeps its first form and takes the last datum.
def putEntry (entries : List (Datum × Datum)) (key d : Datum) : List (Datum × Datum) :=
  if entries.any (·.1.isUnder key.key?) then
    entries.map fun (k, e) => if k.isUnder key.key? then (k, d) else (k, e)
  else entries ++ [(key, d)]

def ofEntries (entries : List (Datum × Datum)) : Datum :=
  .dict (entries.foldl (fun es (k, d) => putEntry es k d) [])

def entry? (key : Option Key) (entries : List (Datum × Datum)) : Option Datum :=
  (entries.find? (·.1.isUnder key)).map (·.2)

-- Items of a list or a tuple.
def sequence? : Datum → Option (List Datum)
  | .list items | .tuple items => some items
  | _ => Option.none

def number? : Datum → Option Value
  | .int n => some (.int n)
  | .float x => some (.ofFloat x)
  | _ => Option.none

def equalScalars : Datum → Datum → Bool
  | .none, .none => true
  | .str s, .str t => s == t
  | d, e => match d.number?, e.number? with
    | some x, some y => (Value.equalNumbers? x y).getD false
    | _, _ => false

mutual

def agrees : Datum → Datum → Bool
  | .bool a, e => match e with
    | .bool b => a == b
    | _ => false
  | .list xs, e | .tuple xs, e => match e.sequence? with
    | some ys => agreesAll xs ys
    | Option.none => false
  | .dict es, e => match e with
    | .dict fs => es.length == fs.length && agreesEntries es fs
    | _ => false
  | d, e => equalScalars d e

def agreesAll : List Datum → List Datum → Bool
  | [], [] => true
  | x :: xs, y :: ys => agrees x y && agreesAll xs ys
  | _, _ => false

def agreesEntries : List (Datum × Datum) → List (Datum × Datum) → Bool
  | [], _ => true
  | (k, d) :: rest, fs =>
    (match entry? k.key? fs with
      | some e => agrees d e
      | Option.none => false) && agreesEntries rest fs

end

-- The text of a datum as a submission would write it.
def shown (d : Datum) : Except Trouble String :=
  let (v, h) := d.load .initial
  v.quoted h

end Datum

namespace Value

def sequence? (h : Heap) : Value → Option (List Value)
  | .list i => some (h.listAt i).toList
  | .tuple _ items => some items
  | _ => Option.none

-- A value against a datum that is no container and no truth value.
def equalScalar (v : Value) (d : Datum) : Bool :=
  match v, d with
  | .none, .none => true
  | .str s, .str t => s == t
  | v, d => match d.number? with
    | some x => match v with
      | .bool _ => false
      | v => (equalNumbers? v x).getD false
    | Option.none => false

mutual

-- Does a value count as the expected answer? The value may hold itself; the datum is finite, and
-- the comparison goes along the datum.
def agrees (h : Heap) (v : Value) : Datum → Bool
  | .bool b => match v with
    | .bool a => a == b
    | _ => false
  | .list ys | .tuple ys => match v.sequence? h with
    | some xs => agreesAll h xs ys
    | Option.none => false
  | .dict fs => match v with
    | .dict i =>
      let d := h.dictAt i
      d.size == fs.length && agreesEntries h d fs
    | _ => false
  | d => equalScalar v d

def agreesAll (h : Heap) : List Value → List Datum → Bool
  | [], [] => true
  | x :: xs, y :: ys => agrees h x y && agreesAll h xs ys
  | _, _ => false

def agreesEntries (h : Heap) (d : Dict) : List (Datum × Datum) → Bool
  | [] => true
  | (k, e) :: rest =>
    (match k.key?.bind d.find? with
      | some v => agrees h v e
      | Option.none => false) && agreesEntries h d rest

end

end Value
end ScriptArena
