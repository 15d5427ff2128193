import ScriptArena.Value.Basic

namespace ScriptArena

-- Entries stand in slots in the order of their insertion. An erased entry leaves its slot empty until the
-- table is rebuilt, which happens when a new key finds no free slot.
structure Dict where
  slots : Array (Option (Value × Value))
  index : Std.HashMap Key Nat
  free : Nat
deriving Inhabited

namespace Dict

def empty : Dict := ⟨#[], ∅, 0⟩

-- The view of a mapping: its entries in the order of their insertion.
def toList (d : Dict) : List (Value × Value) := d.slots.toList.filterMap id

def size (d : Dict) : Nat := d.index.size

def slot? (d : Dict) (k : Key) : Option (Value × Value) :=
  (d.index[k]?).bind fun i => (d.slots[i]?).join

def find? (d : Dict) (k : Key) : Option Value := (d.slot? k).map (·.2)

def contains (d : Dict) (k : Key) : Bool := d.index.contains k

-- The least power of two, and at least eight, that is not below `n`.
def tableSize (n : Nat) : Nat :=
  if n ≤ 8 then 8 else Nat.pow 2 ((n - 1).log2 + 1)

-- Close the gaps. A table is filled to two thirds and is built for three times its entries.
def rebuild (d : Dict) : Dict :=
  let entries := d.slots.filter Option.isSome
  let keys := d.index.fold (fun acc k i => acc.push (i, k)) #[]
  let index := (keys.qsort (fun a b => a.1 < b.1)).foldl
    (fun (m, n) (_, k) => (m.insert k n, n + 1)) ((∅ : Std.HashMap Key Nat), 0)
  ⟨entries, index.1, tableSize (3 * d.size) * 2 / 3 - d.size⟩

-- A new entry goes to the end; an old one keeps its place and its key.
def insert (d : Dict) (k : Key) (key value : Value) : Dict :=
  match d.index[k]? with
  | some i =>
    match (d.slots[i]?).join with
    | some (old, _) => { d with slots := d.slots.set! i (some (old, value)) }
    | none => d
  | none =>
    let d := if d.free = 0 then d.rebuild else d
    { slots := d.slots.push (some (key, value)), index := d.index.insert k d.slots.size
      free := d.free - 1 }

def erase (d : Dict) (k : Key) : Dict :=
  match d.index[k]? with
  | some i => { d with slots := d.slots.set! i none, index := d.index.erase k }
  | none => d

-- A copy keeps the slots as they are unless too many of them are empty.
def copy (d : Dict) : Dict :=
  if d.size = 0 then empty
  else if d.slots.size * 2 / 3 ≤ d.size then d
  else d.rebuild

-- The first entry at or after a slot, and the slot behind it.
def entryFrom (d : Dict) (pos : Nat) : Nat → Option ((Value × Value) × Nat)
  | 0 => none
  | fuel + 1 =>
    match d.slots[pos]? with
    | none => none
    | some (some e) => some (e, pos + 1)
    | some none => entryFrom d (pos + 1) fuel

end Dict
end ScriptArena
