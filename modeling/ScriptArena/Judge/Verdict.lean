import ScriptArena.Judge.Challenge

namespace ScriptArena

inductive VerdictType where
  | success | failure | error | malformed
deriving Repr, DecidableEq

def VerdictType.name : VerdictType → String
  | .success => "success" | .failure => "failure" | .error => "error" | .malformed => "syntax"

inductive Shortcoming where
  | empty | missingFunction | unimplemented | malformed | runtimeError | wrongAnswer
  | functionNotFound | iterationLimit
deriving Repr, DecidableEq

def Shortcoming.name : Shortcoming → String
  | .empty => "user_code_empty"
  | .missingFunction => "user_code_missing_function"
  | .unimplemented => "user_code_unimplemented"
  | .malformed => "user_code_syntax_error"
  | .runtimeError => "user_code_runtime_error"
  | .wrongAnswer => "user_code_logic_failure"
  | .functionNotFound => "user_code_function_not_found"
  | .iterationLimit => "user_code_iteration_limit"

structure Verdict where
  passed : Bool
  message : String
  type : VerdictType
  details : Option String
  hint : Option String := none
  suggestion : Option String := none
  shortcoming : Option Shortcoming := none
  output : List String := []
  outputTruncated : Bool := false
deriving Repr, DecidableEq

structure Printed where
  lines : List String := []
  truncated : Bool := false

namespace Verdict

-- A verdict on a submission that does not pass.
def rejected (type : VerdictType) (why : Shortcoming) (message details hint suggestion : String) :
    Verdict :=
  { passed := false, message, type, details := some details, hint := some hint
    suggestion := some suggestion, shortcoming := some why }

def withOutput (p : Printed) (v : Verdict) : Verdict :=
  { v with output := p.lines, outputTruncated := p.truncated }

def noCode : Verdict := rejected .error .empty "No code provided"
  "The code editor is empty. Please write some code before running tests."
  "Start by implementing the function as described in the challenge."
  "Look at the function template and replace 'pass' with your implementation."

def noDefinition : Verdict := rejected .malformed .missingFunction "Function definition missing"
  "Your code should contain a function definition starting with 'def'."
  "Make sure you have a function definition like 'def function_name():'"
  "Keep the existing function signature and just replace the 'pass' statement."

def notImplemented : Verdict := rejected .error .unimplemented "Function not implemented"
  "The function still contains 'pass' and appears to be unimplemented."
  "Replace 'pass' with your actual implementation."
  "Remove the 'pass' statement and add code that solves the problem."

def countsUp (var : String) : Verdict :=
  rejected .failure .wrongAnswer "Incorrect operation detected"
    (s!"You're incrementing '{var}' instead of decrementing it. " ++
      "This will make the infinite loop worse!")
    s!"You need to make '{var}' smaller each iteration, not larger."
    s!"Change '{var} += 1' to '{var} -= 1' to count down instead of up."

def malformed (details : String) : Verdict :=
  rejected .malformed .malformed "Syntax Error" details
    "Check your Python syntax. Make sure indentation is correct and all statements are valid."
    "Look for missing colons, incorrect indentation, or typos in your code."

def test (n : Nat) (text : String) : String := s!"Test {n}: {text}"

def functionNotFound (n : Nat) : Verdict :=
  rejected .error .functionNotFound (test n "Function not found")
    "The expected function was not found in your code."
    "Make sure your function name matches the template exactly."
    "Check that you haven't changed the function name from the template."

def runtimeError (n : Nat) (details : String) (p : Printed) : Verdict :=
  (rejected .error .runtimeError (test n "❌ Runtime Error") details
    "Check for syntax errors, undefined variables, or logic issues."
    "Review your code for typos, missing variables, or incorrect syntax.").withOutput p

def stillLoops (n : Nat) (var details : String) (p : Printed) : Verdict :=
  (rejected .error .iterationLimit (test n "Infinite loop still present")
    (s!"{details}. The function doesn't change '{var}' inside the loop " ++
      "in a way that ends it.")
    s!"Add a statement inside the while loop that decreases the value of '{var}'."
    s!"Try adding '{var} -= 1' inside the while loop, after the print statement.").withOutput p

def limitReached (n : Nat) (details : String) (p : Printed) : Verdict :=
  (rejected .error .iterationLimit (test n "❌ Execution limit reached") details
    "Your code ran for too long or built values that are too large."
    "Look for loops that never end or recursion without a base case.").withOutput p

-- A vector without a description is said to have none.
def describe (mark : String) (n : Nat) (c : TestCase) : String :=
  test n (mark ++ " " ++ c.description.getD "None")

def passedTest (n : Nat) (c : TestCase) (p : Printed) : Verdict :=
  { passed := true, message := describe "✅" n c, type := .success, details := c.explanation
    output := p.lines, outputTruncated := p.truncated }

def failedTest (n : Nat) (c : TestCase) (expected got : String) (p : Printed) : Verdict :=
  { passed := false, message := describe "❌" n c, type := .failure
    details := some s!"Expected: {expected}, Got: {got}"
    hint := some "Check your logic and try again.", suggestion := c.explanation
    shortcoming := some .wrongAnswer, output := p.lines, outputTruncated := p.truncated }

end Verdict

inductive Outcome where
  | passed | malformed | error | failed
deriving Repr, DecidableEq

def Outcome.name : Outcome → String
  | .passed => "passed" | .malformed => "syntax" | .error => "error" | .failed => "failed"

def Outcome.ofVerdicts (vs : List Verdict) : Outcome :=
  if !vs.isEmpty && vs.all (·.passed) then .passed
  else if vs.any (·.type = .malformed) then .malformed
  else if vs.any (·.type = .error) then .error
  else .failed

theorem Outcome.ofVerdicts_eq_passed_iff (vs : List Verdict) :
    Outcome.ofVerdicts vs = .passed ↔ vs ≠ [] ∧ ∀ v ∈ vs, v.passed = true := by
  unfold Outcome.ofVerdicts
  split
  · rename_i all
    simpa using all
  · rename_i notAll
    constructor
    · intro equal
      split at equal
      · cases equal
      · split at equal <;> cases equal
    · intro all
      exact absurd (by simpa using all) notAll

end ScriptArena
