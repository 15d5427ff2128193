import ScriptArena.Run.Guard
import ScriptArena.Run.Machine
import ScriptArena.Value.Cursor

namespace ScriptArena.Run

-- The next item, and where the cursor stands behind it.
def nextItem {σ : Type} : Cursor × σ → Run ((Value × Cursor × σ) ⊕ σ)
  | (c, acc) => do
    match ← ask fun h => c.next h with
    | none => return .inr acc
    | some (v, c) => return .inl (← own v, c, acc)

def visitItem {σ : Type} (visit : σ → Value → Run (ForInStep σ)) :
    Value × Cursor × σ → Run ((Cursor × σ) ⊕ σ)
  | (v, c, acc) => do
    match ← visit acc v with
    | .done acc => return .inr acc
    | .yield acc => return .inl (c, acc)

def foldItems {σ : Type} (visit : σ → Value → Run (ForInStep σ)) (v : Value) (acc : σ) :
    Run σ := do
  let c ← ask (Cursor.ofValue · v)
  loop nextItem (visitItem visit) (c, acc)

-- All items of a value, up to the ceiling on sequences.
def collect (v : Value) : Run (Array Value) :=
  foldItems (fun items v => do
    let items := items.push v
    guarded fun l _ => Guard.checkSize l .sequence items.size
    return .yield items) v #[]

end ScriptArena.Run
