import ScriptArena.Run.Transcript
import ScriptArena.Value.Index

namespace ScriptArena

structure Machine where
  heap : Heap := .initial
  steps : Nat := 0
  depth : Nat := 0
  -- The most calls that were open at once. Nothing that is run depends on it.
  deepest : Nat := 0
  -- Nodes entered and rounds of loops begun. Nothing that is run depends on it.
  work : Nat := 0
  -- What names were bound to in which scope, one after the other; parameters are not among them.
  -- Nothing that is run depends on it.
  bindings : Array (Nat × String × Value) := #[]
  transcript : Transcript := {}
deriving Inhabited

def Machine.counted (m : Machine) : Machine := { m with steps := m.steps + 1 }

def Machine.worked (m : Machine) : Machine := { m with work := m.work + 1 }

def Machine.deepened (m : Machine) : Machine :=
  { m with depth := m.depth + 1, deepest := max m.deepest (m.depth + 1) }

def Machine.bind (scope : Nat) (name : String) (v : Value) (m : Machine) : Machine :=
  { m with
    heap := m.heap.bind scope name v
    bindings := m.bindings.push (scope, name, v) }

-- The changes that were made before a fault stay.
abbrev Run := ReaderT Limits (EStateM Fault Machine)

namespace Run

variable {α : Type}

def settle : Except Trouble α → Run α
  | .ok a => pure a
  | .error e => throw e.toFault

-- Look at the heap without changing it.
def look (f : Heap → α) : Run α := return f (← get).heap

def ask (f : Heap → Except Trouble α) : Run α := do settle (← look f)

-- Ask something that the ceilings have a say in.
def guarded (g : Limits → Heap → Except Trouble α) : Run α := do ask (g (← read))

def change (f : Heap → Heap) : Run Unit := modify fun m => { m with heap := f m.heap }

-- Put something new into the heap and tell its place.
def allocate (f : Heap → α × Heap) : Run α :=
  modifyGet fun m => ((f m.heap).1, { m with heap := (f m.heap).2 })

def newList (items : Array Value) : Run Value := allocate (·.newList items)

def newDict (d : Dict) : Run Value := allocate (·.newDict d)

def newFrame (f : Frame) : Run Nat := allocate (·.newFrame f)

def own (v : Value) : Run Value := allocate (·.own v)

def keep : Made → Run Value
  | .value v => own v
  | .list items => newList items
  | .set items => do
    let items ← allocate (·.ownAll items)
    own (.set none (← guarded fun l h => .ok (l.order.arrange h.marks items)))

def stop (what : LimitFault) : Run α := throw (.limit what)

def checkTime : Run Unit := do
  match (← read).time with
  | .ample => pure ()
  | .spent seconds => stop (.time seconds)

-- Count a step. Every thousandth one looks at the time.
def tick : Run Unit := do
  let steps : Nat ← modifyGet fun m => (m.counted.steps, m.counted)
  let limits ← read
  if limits.maxSteps < steps then stop (.steps limits.maxSteps)
  if steps % 1000 = 0 then checkTime

-- Enter a node, or a round of a loop.
def enter : Run Unit := modify Machine.worked

-- The steps that can be counted before the ceiling stops the run.
def stepsLeft : Run Nat := do
  let left : Int := (← read).maxSteps - (← get).steps
  return left.toNat + 1

-- One round of a loop. The probe ends the loop or leads into the body, at the cost of a step.
def turn {σ τ : Type} (probe : σ → Run (τ ⊕ α)) (body : τ → Run (σ ⊕ α)) (s : σ) :
    Run (σ ⊕ α) := do
  match ← probe s with
  | .inr a => return .inr a
  | .inl t =>
    tick
    enter
    body t

-- Rounds of a loop, as many as there is fuel for.
def rounds {σ τ : Type} (probe : σ → Run (τ ⊕ α)) (body : τ → Run (σ ⊕ α)) : Nat → σ → Run α
  | 0, _ => do stop (.steps (← read).maxSteps)
  | fuel + 1, s => do
    match ← turn probe body s with
    | .inr a => return a
    | .inl s => rounds probe body fuel s

-- A loop goes on for as long as there are steps to count.
def loop {σ τ : Type} (probe : σ → Run (τ ⊕ α)) (body : τ → Run (σ ⊕ α)) (s : σ) : Run α := do
  rounds probe body (← stepsLeft) s

def checkDepth : Run Unit := do
  let limits ← read
  if limits.maxCallDepth ≤ (← get).depth then stop (.depth limits.maxCallDepth)

-- Run a computation one call deeper. The depth is restored however it ends.
def deeper (x : Run α) : Run α := fun l m =>
  match x l m.deepened with
  | .ok a m => .ok a { m with depth := m.depth - 1 }
  | .error e m => .error e { m with depth := m.depth - 1 }

-- The open line is ended however a computation ends.
def flushed (x : Run α) : Run α := fun l m =>
  match x l m with
  | .ok a m => .ok a { m with transcript := m.transcript.flush l }
  | .error e m => .error e { m with transcript := m.transcript.flush l }

-- Change the heap when a computation stops short.
def undoing (undo : Heap → Heap) (x : Run α) : Run α := fun l m =>
  match x l m with
  | .ok a m => .ok a m
  | .error e m => .error e { m with heap := undo m.heap }

end Run
end ScriptArena
