import ScriptArena.Value.Heap

namespace ScriptArena

inductive Datum where
  | none
  | bool (b : Bool)
  | int (n : Int)
  | float (x : Float)
  | str (s : String)
  | list (items : List Datum)
  | tuple (items : List Datum)
  | dict (entries : List (Datum × Datum))
deriving Inhabited

namespace Datum

mutual

def load : Datum → Heap → Value × Heap
  | .none, h => (.none, h)
  | .bool b, h => (.bool b, h)
  | .int n, h => (.int n, h)
  | .float x, h => h.own (.ofFloat x)
  | .str s, h => (.str s, h)
  | .list items, h =>
    let (vs, h) := loadAll items h
    h.newList vs.toArray
  | .tuple items, h =>
    let (vs, h) := loadAll items h
    h.own (.tuple Option.none vs)
  | .dict entries, h =>
    let (d, h) := loadEntries entries .empty h
    h.newDict d

def loadAll : List Datum → Heap → List Value × Heap
  | [], h => ([], h)
  | d :: rest, h =>
    let (v, h) := load d h
    let (vs, h) := loadAll rest h
    (v :: vs, h)

-- Later entries win. A key that cannot be one is left out.
def loadEntries : List (Datum × Datum) → Dict → Heap → Dict × Heap
  | [], d, h => (d, h)
  | (key, value) :: rest, d, h =>
    let (key, h) := load key h
    let (v, h) := load value h
    match key.key? with
    | .ok k => loadEntries rest (d.insert k key v) h
    | .error _ => loadEntries rest d h

end

end Datum
end ScriptArena
