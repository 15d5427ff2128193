import ScriptArena.Judge.Answer
import ScriptArena.Judge.Brief
import ScriptArena.Judge.Bundled
import ScriptArena.Judge.Increment
import ScriptArena.Judge.Verdict
import ScriptArena.Run.Session
import ScriptArena.Text.Search

namespace ScriptArena.Judge

def lineCount (code : String) : Nat := (code.toList.filter (· = '\n')).length + 1

-- A placeholder in a short text means that nothing has been written yet.
def looksUnimplemented (code : String) : Bool :=
  Text.hasPart "pass".toList code.toList && lineCount code ≤ 5

def precheck? (code : String) : Option Verdict :=
  if code.isEmpty then some .noCode
  else if !Text.hasPart "def ".toList code.toList then some .noDefinition
  else if looksUnimplemented code then some .notImplemented
  else none

-- Only the exercise about the endless loop has a loop variable.
def increment? (c : Challenge) (code : String) : Option Verdict :=
  match c.loopVariable with
  | some var =>
    if !var.isEmpty && Increment.occursIn var code then some (.countsUp var) else none
  | none => none

def printed (s : Session) : Printed :=
  ⟨s.machine.transcript.lines.toList, s.machine.transcript.truncated⟩

-- The function of the challenge, or else the first one of the submission.
def function? (s : Session) (c : Challenge) : Option Nat :=
  match s.function? c.functionName with
  | some f => some f
  | none => s.functions.head?

-- The text of a fault in a verdict. A failure that cannot be shown is a failure of the
-- judgement itself.
def faultText (e : Fault) : Except Trouble String :=
  match e with
  | .failure (.missingKey none) => .error (.failure .tooManyDigits)
  | .tooDeep => .ok (e.label ++ ": maximum recursion depth exceeded")
  | e => .ok (e.label ++ ": " ++ e.message?.getD "")

def stopped (c : Challenge) (n : Nat) (p : Printed) : Fault → Except Trouble Verdict
  | .limit what =>
    match c.loopVariable with
    | some var =>
      if var.isEmpty then .ok (.limitReached n what.message p)
      else .ok (.stillLoops n var what.message p)
    | none => .ok (.limitReached n what.message p)
  | e => do return .runtimeError n (← faultText e) p

def compareAnswer (n : Nat) (t : TestCase) (s : Session) (v : Value) : Except Trouble Verdict :=
  let h := s.machine.heap
  if v.agrees h t.expected then .ok (.passedTest n t (printed s))
  else do
    return .failedTest n t (← t.expected.shown) (← v.brief h) (printed s)

inductive Ending where
  | stopped (e : Fault) (p : Printed)
  | unfound
  | answered (v : Value) (s : Session)

def callFunction (t : TestCase) (s : Session) (f : Nat) : Ending :=
  let (args, h) := Datum.loadAll t.arguments s.machine.heap
  match { s with machine := { s.machine with heap := h } }.call f args with
  | (.error e, s) => .stopped e (printed s)
  | (.ok v, s) => .answered v s

def runVector (c : Challenge) (p : Script.Program) (l : Limits) (t : TestCase) : Ending :=
  match Session.start p l with
  | .error e => .stopped e {}
  | .ok s =>
    match function? s c with
    | none => .unfound
    | some f => callFunction t s f

def report (c : Challenge) (n : Nat) (t : TestCase) : Ending → Except Trouble Verdict
  | .stopped e p => stopped c n p e
  | .unfound => .ok (.functionNotFound n)
  | .answered v s => compareAnswer n t s v

def judgeVector (c : Challenge) (p : Script.Program) (l : Limits) (n : Nat) (t : TestCase) :
    Except Trouble Verdict :=
  report c n t (runVector c p l t)

def judgeVectors (c : Challenge) (p : Script.Program) (l : Limits) (tests : List TestCase) :
    Except Trouble (List Verdict) :=
  tests.zipIdx.mapM fun (t, n) => judgeVector c p l (n + 1) t

-- A rejection is shown by its kind, and by its text if it has one.
def rejectionText (r : Script.Rejection) : String :=
  match r.message? with
  | some text => r.label ++ ": " ++ text
  | none => r.label

def failureText (e : Fault) : String :=
  match e.message? with
  | some text => e.label ++ ": " ++ text
  | none => e.label

def run (c : Challenge) (p : Script.Program) (l : Limits) (tests : List TestCase) : List Verdict :=
  match judgeVectors c p l tests with
  | .ok verdicts => verdicts
  | .error e => [.malformed (failureText e)]

def evaluate (c : Challenge) (l : Limits) (source : String) (tests : List TestCase) :
    List Verdict :=
  let code := Text.trim source
  match precheck? code with
  | some v => [v]
  | none =>
    match increment? c code with
    | some v => [v]
    | none =>
      match Script.Program.compile code l.names with
      | .error r => [.malformed (rejectionText r)]
      | .ok p => run c p l tests

structure UnknownChallenge where
  id : String

def UnknownChallenge.message (u : UnknownChallenge) : String := s!"Challenge {u.id} not found"

def UnknownChallenge.code (_ : UnknownChallenge) : String := "challenge_not_found"

-- Judge a submission on the vectors of a challenge of the catalog.
def evaluateById (catalog : Catalog) (l : Limits) (id source : String) :
    Except UnknownChallenge (List Verdict) :=
  match catalog.find? id with
  | some c => .ok (evaluate c l source c.testCases)
  | none => .error ⟨id⟩

end ScriptArena.Judge
