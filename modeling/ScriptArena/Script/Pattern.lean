import ScriptArena.Script.Grammar

namespace ScriptArena.Script.Grammar
open Parse

-- A name that binds: not the wildcard, and not the start of something longer.
def captureName : Parse Unit := do
  let id ← ident
  if id == "_" then mismatch
  match ← peek with
  | .op s => if [".", "(", "="].contains s then mismatch
  | _ => return ()

def isImaginary : Constant → Bool
  | .imaginary _ => true
  | _ => false

def number : Parse Constant := do
  match ← peek with
  | .number (some c) => advance; return c
  | .number none => refuse .shape
  | _ => mismatch

-- A signed number, or a real one with an imaginary part.
def numberPattern : Parse Unit := do
  let _ ← takeOp "-"
  let c ← number
  if (← takeOp "+") || (← takeOp "-") then
    let d ← number
    if isImaginary c || !isImaginary d then refuse .shape

def textPattern (r : Next) : Parse Unit := do
  match ← peek with
  | .text _ =>
    match ← texts r with
    | .const _ => return ()
    | _ => refuse .shape
  | _ => mismatch

def constantPattern : Parse Unit := do
  match ← peek with
  | .keyword w => if ["None", "True", "False"].contains w then advance else mismatch
  | _ => mismatch

def literalPattern (r : Next) : Parse Unit :=
  orElse numberPattern (orElse (textPattern r) constantPattern)

-- A dotted name; `dotted` asks for at least one dot.
def dottedName (dotted : Bool) : Parse Unit := do
  let _ ← ident
  let more ← loop 0 fun n => do
    if ← takeOp "." then
      let _ ← ident
      return some (n + 1)
    else return none
  if dotted && more = 0 then mismatch

def starPattern (r : Next) : Parse Unit := do
  if ← takeOp "*" then
    let _ ← ident
  else r.get.pattern

-- Patterns up to a closing bracket; whether there was a comma tells a sequence from a group.
def sequencePattern (r : Next) (close : String) : Parse Unit := do
  if ← takeOp close then return ()
  let starred ← isOp "*"
  let (items, comma) ← commaList (starPattern r) (isOp close)
  op close
  if close == ")" && starred && items.length = 1 && !comma then mismatch

def mappingItem (r : Next) : Parse Bool := do
  if ← takeOp "**" then
    captureName
    return true
  orElse (literalPattern r) (dottedName true)
  op ":"
  r.get.pattern
  return false

def mappingPattern (r : Next) : Parse Unit := do
  if ← takeOp "\x7d" then return ()
  let (items, _) ← commaList (mappingItem r) (isOp "\x7d")
  op "\x7d"
  -- What takes the rest stands last.
  if items.dropLast.any id then mismatch

-- Positional patterns come before named ones.
def classArgument (r : Next) : Parse Bool := do
  let label ← attempt do
    let _ ← ident
    op "="
  r.get.pattern
  return label.isSome

def classPattern (r : Next) : Parse Unit := do
  dottedName false
  op "("
  if ← takeOp ")" then return ()
  let (items, _) ← commaList (classArgument r) (isOp ")")
  op ")"
  if (items.dropWhile (!·)).any (!·) then mismatch

-- A dotted name that a value is compared with.
def valuePattern : Parse Unit := do
  dottedName true
  match ← peek with
  | .op s => if [".", "(", "="].contains s then mismatch
  | _ => return ()

def wildcard : Parse Unit := soft "_"

def closedPattern (r : Next) : Parse Unit := do
  match ← peek with
  | .op "(" => advance; sequencePattern r ")"
  | .op "[" => advance; sequencePattern r "]"
  | .op "\x7b" => advance; mappingPattern r
  | .name _ =>
    orElse captureName (orElse (do
      wildcard
      match ← peek with
      | .op s => if [".", "("].contains s then mismatch
      | _ => return ()) (orElse valuePattern (classPattern r)))
  | _ => literalPattern r

def pattern (r : Next) : Parse Unit := do
  closedPattern r
  let _ ← loop () fun _ => do
    if ← takeOp "|" then
      closedPattern r
      return some ()
    else return none
  if ← takeKeyword "as" then captureName

-- The pattern of a case, which may be a sequence without brackets.
def openPattern (r : Next) : Parse Unit := do
  let stop : Parse Bool := do return (← isOp ":") || (← isKeyword "if")
  let starred ← isOp "*"
  let (items, comma) ← commaList (starPattern r) stop
  if starred && items.length = 1 && !comma then mismatch

end ScriptArena.Script.Grammar
