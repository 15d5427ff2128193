import ScriptArena.Script.Token

namespace ScriptArena.Script

inductive Malformed where
  | shape
  | indentation
  | tabs
deriving Repr, DecidableEq

inductive ParseFault where
  | mismatch
  | refused (what : Malformed)
deriving Repr, DecidableEq

def LexFault.kind : LexFault → Malformed
  | .malformed | .strayContinuation | .unfinished => .shape
  | .mixedTabs => .tabs
  | .unmatchedDedent | .tooManyIndents => .indentation

-- `left` counts the tokens of `rest`; `far` is the least count at which a token was looked
-- at; `blockAt` is the count at which an indented block was missed last.
structure Cursor where
  rest : List Lexeme
  left : Nat
  far : Nat
  farRest : List Lexeme
  blockAt : Option Nat

def Cursor.ofTokens (tokens : List Lexeme) : Cursor :=
  ⟨tokens, tokens.length, tokens.length + 1, tokens, none⟩

abbrev Parse := EStateM ParseFault Cursor

namespace Parse

def mismatch {α : Type} : Parse α := throw .mismatch

def refuse {α : Type} (what : Malformed) : Parse α := throw (.refused what)

-- Look at the next token. A token that could not be made refuses the submission.
def peek : Parse Token := fun s =>
  let s := if s.left < s.far then { s with far := s.left, farRest := s.rest } else s
  match s.rest with
  | [] => .ok .finish s
  | l :: _ =>
    match l.token with
    | .fault f => .error (.refused f.kind) s
    | t => .ok t s

def advance : Parse Unit := fun s =>
  .ok () { s with rest := s.rest.drop 1, left := s.left - 1 }

-- The line of the next token.
def line : Parse Nat := fun s => .ok ((s.rest.head?.map (·.line)).getD 0) s

def isOp (symbol : String) : Parse Bool := do
  match ← peek with
  | .op s => return s == symbol
  | _ => return false

def isKeyword (word : String) : Parse Bool := do
  match ← peek with
  | .keyword w => return w == word
  | _ => return false

def isSoft (word : String) : Parse Bool := do
  match ← peek with
  | .name w => return w == word
  | _ => return false

-- Take the token if it is there.
def takeOp (symbol : String) : Parse Bool := do
  if ← isOp symbol then advance; return true
  return false

def takeKeyword (word : String) : Parse Bool := do
  if ← isKeyword word then advance; return true
  return false

def op (symbol : String) : Parse Unit := do
  if !(← takeOp symbol) then mismatch

def keyword (word : String) : Parse Unit := do
  if !(← takeKeyword word) then mismatch

def soft (word : String) : Parse Unit := do
  if ← isSoft word then advance else mismatch

def newline : Parse Unit := do
  match ← peek with
  | .newline => advance
  | _ => mismatch

def ident : Parse String := do
  match ← peek with
  | .name id => advance; return id
  | _ => mismatch

-- One of several operators, if one is there.
def takeOneOf (symbols : List String) : Parse (Option String) := do
  match ← peek with
  | .op s => if symbols.contains s then advance; return some s else return none
  | _ => return none

-- Try a reading and go back to where it began if it does not fit.
def attempt {α : Type} (p : Parse α) : Parse (Option α) := fun s =>
  match p s with
  | .ok a s => .ok (some a) s
  | .error .mismatch t => .ok none { t with rest := s.rest, left := s.left }
  | .error e t => .error e t

def orElse {α : Type} (p q : Parse α) : Parse α := do
  match ← attempt p with
  | some a => return a
  | none => q

def iterate {α : Type} (step : α → Parse (Option α)) : Nat → α → Parse α
  | 0, a => return a
  | fuel + 1, a => do
    match ← step a with
    | some b => iterate step fuel b
    | none => return a

-- Repeat a step until it has nothing to add. Each round takes a token.
def loop {α : Type} (start : α) (step : α → Parse (Option α)) : Parse α := do
  iterate step ((← get).left + 1) start

-- One or more items with commas between; the answer says whether a comma ends the list.
-- `stop` tells that no further item follows a comma.
def commaList {α : Type} (item : Parse α) (stop : Parse Bool) : Parse (List α × Bool) := do
  let first ← item
  let (items, trailing, _) ← loop ([first], false, false) fun (acc, _, done) => do
    if done then return none
    if ← takeOp "," then
      if ← stop then return some (acc, true, true)
      else return some ((← item) :: acc, false, false)
    else return none
  return (items.reverse, trailing)

end Parse
end ScriptArena.Script
