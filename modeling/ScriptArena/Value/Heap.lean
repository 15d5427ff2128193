import ScriptArena.Script.Tree
import ScriptArena.Value.Dict

namespace ScriptArena

-- A scope: its variables in the order in which they were bound first, and the scope around.
structure Frame where
  vars : Array (String × Value)
  parent : Option Nat
deriving Inhabited

namespace Frame

def find? (f : Frame) (name : String) : Option Value :=
  (f.vars.find? (·.1 == name)).map (·.2)

-- A bound name keeps its place.
def bind (f : Frame) (name : String) (v : Value) : Frame :=
  match f.vars.findIdx? (·.1 == name) with
  | some i => { f with vars := f.vars.set! i (name, v) }
  | none => { f with vars := f.vars.push (name, v) }

end Frame

-- A function of the submission. Its line tells its definition from any other.
structure Closure where
  name : String
  params : List String
  defaults : List Value
  body : List Script.Stmt
  line : Nat
  scope : Nat
deriving Inhabited

-- A new object as the one of that number. Whatever has a number, or needs none, stays as it is.
def FloatObject.numbered (n : Nat) (x : FloatObject) : FloatObject :=
  if x.value.isNaN then ⟨x.value, x.mark <|> some n⟩ else x

def FloatObject.isNew (x : FloatObject) : Bool := x.value.isNaN && x.mark.isNone

def Value.numbered (n : Nat) : Value → Value
  | .float x => .float (x.numbered n)
  | .complex re im => .complex (re.numbered n) (im.numbered n)
  | .tuple mark items => .tuple (mark <|> some n) items
  | .set mark items => .set (mark <|> some n) items
  | .view mark kind i => .view (mark <|> some n) kind i
  | v => v

def Value.isNew : Value → Bool
  | .float x => x.isNew
  | .complex re im => re.isNew || im.isNew
  | .tuple mark items => mark.isNone && !items.isEmpty
  | .set mark _ | .view mark .. => mark.isNone
  | _ => false

-- The tables that values refer to. Nothing is ever taken out of one.
structure Heap where
  lists : Array (Array Value)
  dicts : Array Dict
  frames : Array Frame
  closures : Array Closure
  -- How many objects have been numbered.
  marks : Nat
deriving Inhabited

namespace Heap

-- The module scope is the first frame.
def initial : Heap := ⟨#[], #[], #[⟨#[], none⟩], #[], 0⟩

def listAt (h : Heap) (i : Nat) : Array Value := (h.lists[i]?).getD #[]

def dictAt (h : Heap) (i : Nat) : Dict := (h.dicts[i]?).getD .empty

def frameAt (h : Heap) (i : Nat) : Frame := (h.frames[i]?).getD default

def closureAt (h : Heap) (i : Nat) : Closure := (h.closures[i]?).getD default

def newList (h : Heap) (items : Array Value) : Value × Heap :=
  (.list h.lists.size, { h with lists := h.lists.push items })

def newDict (h : Heap) (d : Dict) : Value × Heap :=
  (.dict h.dicts.size, { h with dicts := h.dicts.push d })

def newClosure (h : Heap) (c : Closure) : Value × Heap :=
  (.function h.closures.size, { h with closures := h.closures.push c })

def newFrame (h : Heap) (f : Frame) : Nat × Heap :=
  (h.frames.size, { h with frames := h.frames.push f })

-- A value as the submission gets hold of it: a new object is given a number.
def own (h : Heap) (v : Value) : Value × Heap :=
  if v.isNew then (v.numbered h.marks, { h with marks := h.marks + 1 }) else (v, h)

def ownAll (h : Heap) : List Value → List Value × Heap
  | [] => ([], h)
  | v :: rest =>
    let (v, h) := h.own v
    let (rest, h) := h.ownAll rest
    (v :: rest, h)

def modifyList (h : Heap) (i : Nat) (f : Array Value → Array Value) : Heap :=
  { h with lists := h.lists.modify i f }

def modifyDict (h : Heap) (i : Nat) (f : Dict → Dict) : Heap :=
  { h with dicts := h.dicts.modify i f }

def bind (h : Heap) (frame : Nat) (name : String) (v : Value) : Heap :=
  { h with frames := h.frames.modify frame (·.bind name v) }

-- Scopes from the inside out. A scope is made after the scope around it, so there are at
-- most as many as its place tells.
def scopes (h : Heap) : Nat → Nat → List Frame
  | 0, _ => []
  | fuel + 1, i =>
    let f := h.frameAt i
    f :: match f.parent with
      | some p => scopes h fuel p
      | none => []

def lookupFrom (h : Heap) (name : String) : Nat → Nat → Option Value
  | 0, _ => none
  | fuel + 1, i =>
    let f := h.frameAt i
    match f.find? name with
    | some v => some v
    | none => match f.parent with
      | some p => lookupFrom h name fuel p
      | none => none

-- A name means what the nearest scope binds it to, and a builtin if none does.
def lookup? (h : Heap) (frame : Nat) (name : String) : Option Value :=
  match h.lookupFrom name (frame + 1) frame with
  | some v => some v
  | none => (Builtin.ofName? name).map .builtin

-- Nothing that is in the heap depends on numbers.
theorem own_eq (h : Heap) (v : Value) : ∃ n, (h.own v).2 = { h with marks := n } := by
  unfold own
  split
  · exact ⟨_, rfl⟩
  · exact ⟨_, rfl⟩

theorem ownAll_eq (h : Heap) (items : List Value) : ∃ n, (h.ownAll items).2 = { h with marks := n } := by
  induction items generalizing h with
  | nil => exact ⟨_, rfl⟩
  | cons v rest ih =>
    obtain ⟨k, first⟩ := h.own_eq v
    obtain ⟨n, others⟩ := ih { h with marks := k }
    refine ⟨n, ?_⟩
    change ((h.own v).2.ownAll rest).2 = _
    rw [first, others]

theorem ownAll_length (h : Heap) (items : List Value) : (h.ownAll items).1.length = items.length := by
  induction items generalizing h with
  | nil => rfl
  | cons v rest ih => exact congrArg (· + 1) (ih _)

theorem listAt_newList (h : Heap) (items : Array Value) :
    (h.newList items).2.listAt h.lists.size = items := by
  simp [newList, listAt]

end Heap

def ViewKind.item : ViewKind → Value × Value → Value
  | .keys, (k, _) => k
  | .values, (_, v) => v
  | .items, (k, v) => .tuple none [k, v]

def Dict.shown (d : Dict) (kind : ViewKind) : List Value := d.toList.map kind.item

namespace Value

def length? (h : Heap) : Value → Option Nat
  | .str s => some s.length
  | .bytes b => some b.length
  | .range a b c => some (rangeLength a b c)
  | .tuple _ items | .set _ items => some items.length
  | .list i => some (h.listAt i).size
  | .dict i | .view _ _ i => some (h.dictAt i).size
  | _ => Option.none

-- A value counts as true unless it is zero, empty or nothing.
def isTrue (h : Heap) : Value → Bool
  | .none => false
  | .bool b => b
  | .int n => n != 0
  | .float x => !(x.value == 0.0)
  | .complex re im => !(re.value == 0.0 && im.value == 0.0)
  | v => match v.length? h with
    | some n => n != 0
    | Option.none => true

end Value
end ScriptArena
