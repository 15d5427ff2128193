import ScriptArena.Run.Evaluate
import ScriptArena.Script.Program

namespace ScriptArena

open Run

structure Session where
  limits : Limits
  machine : Machine

namespace Session

-- The scope of the module.
def moduleScope : Nat := 0

def rules : Rules := Run.rules maxRunDepth

def runModule (p : Script.Program) : Run Flow := rules.block moduleScope p.body

def start (p : Script.Program) (l : Limits) : Except Fault Session :=
  match runModule p l {} with
  | .ok _ m => .ok ⟨l, m⟩
  | .error e _ => .error e

def globals (s : Session) : List (String × Value) :=
  (s.machine.heap.frameAt moduleScope).vars.toList

-- The functions that module names are bound to, in the order of the names.
def functions (s : Session) : List Nat :=
  s.globals.filterMap fun
    | (_, .function i) => some i
    | _ => none

def functionName (s : Session) (at_ : Nat) : String := (s.machine.heap.closureAt at_).name

def function? (s : Session) (name : String) : Option Nat :=
  match s.globals.lookup name with
  | some (.function i) => some i
  | _ => none

-- Whatever a call ends with, the line that it left open is ended.
def callBody (at_ : Nat) (args : List Value) : Run Value := do
  checkTime
  flushed (rules.callFunction at_ ⟨args, []⟩)

-- Call a function. The session goes on whether the call succeeds or not.
def call (s : Session) (at_ : Nat) (args : List Value) : Except Fault Value × Session :=
  match callBody at_ args s.limits s.machine with
  | .ok v m => (.ok v, { s with machine := m })
  | .error e m => (.error e, { s with machine := m })

-- A program that is started and asked for one call, and the machine as it is in the end. What
-- function is called with what, the host picks by the heap, to which it may add values of its own.
def single (p : Script.Program) (host : Heap → (Nat × List Value) × Heap) (l : Limits) :
    Except Fault Value × Machine :=
  match runModule p l {} with
  | .error e m => (.error e, m)
  | .ok _ m =>
    let ((at_, args), heap) := host m.heap
    let (result, s) := Session.call ⟨l, { m with heap := heap }⟩ at_ args
    (result, s.machine)

end Session
end ScriptArena
