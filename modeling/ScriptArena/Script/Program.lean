import ScriptArena.Script.Margin
import ScriptArena.Script.Statement
import ScriptArena.Script.Subset

namespace ScriptArena.Script

inductive Rejection where
  | malformed (what : Malformed)
  | nullCharacter
  | offence (what : Offence) (line : Option Nat)
  | tooDeep
deriving Repr, DecidableEq

structure Program where
  body : Module
  supported : body.check = .ok ()

namespace Program

def functionNames (p : Program) : List String := Script.functionNames p.body

def ofModule (m : Module) : Except Rejection Program :=
  match h : m.check with
  | .ok () => .ok ⟨m, h⟩
  | .error (.offence what line) => .error (.offence what line)
  | .error .tooDeep => .error .tooDeep

-- Read a submission without its margin, then check it.
def compile (source : String) (names : CharNames := .unknown) : Except Rejection Program :=
  match Module.ofText? names (dedent source) with
  | .error (.malformed what) => .error (.malformed what)
  | .error .nullCharacter => .error .nullCharacter
  | .ok m => ofModule m

end Program

def Rejection.label : Rejection → String
  | .malformed .shape => "SyntaxError"
  | .malformed .indentation => "IndentationError"
  | .malformed .tabs => "TabError"
  | .nullCharacter => "ValueError"
  | .offence .. => "UnsupportedSyntaxError"
  | .tooDeep => "RecursionError"

-- The text of a rejection that has one: offences name the line they stand on.
def Rejection.message? : Rejection → Option String
  | .malformed _ | .tooDeep => none
  | .nullCharacter => some "source code string cannot contain null bytes"
  | .offence what none => some what.message
  | .offence what (some line) => some ("line " ++ toString line ++ ": " ++ what.message)

end ScriptArena.Script
