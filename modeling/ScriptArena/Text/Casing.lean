import ScriptArena.Text.CaseMap

namespace ScriptArena.Text

-- A sigma is final when a cased letter stands before it and none after it; characters
-- without influence on case are passed over in both directions.
def isFinalSigma (before after : List Char) : Bool :=
  ((before.dropWhile isCaseIgnorable).head?.any isCased) &&
    !((after.dropWhile isCaseIgnorable).head?.any isCased)

-- `before` is the text on the left, nearest character first.
def lowerAt (before : List Char) (c : Char) (after : List Char) : List Char :=
  if c == 'Σ' then [if isFinalSigma before after then 'ς' else 'σ'] else lowerChars c

-- Both walks keep what is done in reverse.
def lowerFrom : List Char → List Char → List Char → List Char
  | _, [], done => done.reverse
  | before, c :: rest, done =>
    lowerFrom (c :: before) rest ((lowerAt before c rest).reverse ++ done)

def titleFrom : List Char → List Char → List Char → List Char
  | _, [], done => done.reverse
  | before, c :: rest, done =>
    let shown := if before.head?.any isCased then lowerAt before c rest else titleChars c
    titleFrom (c :: before) rest (shown.reverse ++ done)

def upper (s : String) : String := String.ofList (s.toList.flatMap upperChars)

def lower (s : String) : String := String.ofList (lowerFrom [] s.toList [])

-- Each run of cased characters begins with a title letter and goes on in lower case.
def title (s : String) : String := String.ofList (titleFrom [] s.toList [])

def capitalize (s : String) : String :=
  match s.toList with
  | [] => ""
  | c :: rest => String.ofList (titleChars c ++ lowerFrom [c] rest [])

end ScriptArena.Text
