import ScriptArena.Value.Heap

namespace ScriptArena

inductive Outline where
  | scalar (v : Value)
  | list (items : List Outline)
  | tuple (items : List Outline)
  | dict (entries : List (Outline × Outline))
  | view (kind : ViewKind) (items : List Outline)
  | function (name : String)
  | cycle
  | deep
deriving Inhabited

namespace Outline

-- How many containers are followed.
def maxDepth : Nat := 60

def isContainer : Value → Bool
  | .list _ | .tuple .. | .dict _ | .view .. => true
  | _ => false

-- The outline of a value inside the containers that are open; `room` more may be opened.
def within (h : Heap) (opened : List Value) (v : Value) : Nat → Outline
  | 0 =>
    if !isContainer v then plain h v
    else if opened.any (·.same v) then .cycle
    else .deep
  | room + 1 =>
    if isContainer v && opened.any (·.same v) then .cycle
    else
      let inner (w : Value) := within h (v :: opened) w room
      match v with
      | .list i => .list ((h.listAt i).toList.map inner)
      | .tuple _ items => .tuple (items.map inner)
      | .dict i => .dict ((h.dictAt i).toList.map fun (k, w) => (inner k, inner w))
      -- The entries of a view are tuples, which are containers of their own.
      | .view _ kind i => .view kind (((h.dictAt i).shown kind).map inner)
      | v => plain h v
where
  plain (h : Heap) : Value → Outline
    | .function i => .function (h.closureAt i).name
    | v => .scalar v

def ofValue (h : Heap) (v : Value) : Outline := within h [] v maxDepth

end Outline
end ScriptArena
