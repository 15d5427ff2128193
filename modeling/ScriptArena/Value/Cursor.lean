import ScriptArena.Value.Compare

namespace ScriptArena

-- A place in a value. Lists and mappings are looked at afresh for every item, so that changes during an
-- iteration are seen.
inductive Cursor where
  | items (rest : List Value)
  | chars (rest : List Char)
  | range (next step : Int) (left : Nat)
  | list (at_ pos : Nat)
  | entries (kind : ViewKind) (at_ pos size left : Nat)

namespace Cursor

def rangeItems (start step : Int) (n : Nat) : List Value :=
  (List.range n).map fun (k : Nat) => .int (start + k * step)

def ofValue? (h : Heap) : Value → Option Cursor
  | .str s => some (.chars s.toList)
  | .bytes b => some (.items (b.map fun x => .int x.toNat))
  | .range a b c => some (.range a c (rangeLength a b c))
  | .tuple _ xs | .set _ xs => some (.items xs)
  | .list i => some (.list i 0)
  | .dict i => let d := h.dictAt i; some (.entries .keys i 0 d.size d.size)
  | .view _ kind i => let d := h.dictAt i; some (.entries kind i 0 d.size d.size)
  | _ => none

def ofValue (h : Heap) (v : Value) : Except Trouble Cursor :=
  match ofValue? h v with
  | some c => .ok c
  | none => .error (.failure (.notIterable v.typeName))

def next (h : Heap) : Cursor → Except Trouble (Option (Value × Cursor))
  | .items [] => .ok none
  | .items (v :: rest) => .ok (some (v, .items rest))
  | .chars [] => .ok none
  | .chars (c :: rest) => .ok (some (.str (String.ofList [c]), .chars rest))
  | .range n step left =>
    match left with
    | 0 => .ok none
    | k + 1 => .ok (some (.int n, .range (n + step) step k))
  | .list i pos =>
    match (h.listAt i)[pos]? with
    | some v => .ok (some (v, .list i (pos + 1)))
    | none => .ok none
  | .entries kind i pos size left =>
    let d := h.dictAt i
    if d.size ≠ size then .error (.failure .dictSizeChanged)
    else match d.entryFrom pos (d.slots.size + 1 - pos) with
      | none => .ok none
      | some (e, pos) =>
        match left with
        | 0 => .error (.failure .dictKeysChanged)
        | k + 1 => .ok (some (kind.item e, .entries kind i pos size k))

end Cursor

-- All items of a value at once; none if it has no items.
def Value.items? (h : Heap) : Value → Option (List Value)
  | .str s => some (s.toList.map fun c => .str (String.ofList [c]))
  | .bytes b => some (b.map fun x => .int x.toNat)
  | .range a b c => some (Cursor.rangeItems a c (rangeLength a b c))
  | .tuple _ items | .set _ items => some items
  | .list i => some (h.listAt i).toList
  | .dict i => some ((h.dictAt i).shown .keys)
  | .view _ kind i => some ((h.dictAt i).shown kind)
  | _ => Option.none

end ScriptArena
