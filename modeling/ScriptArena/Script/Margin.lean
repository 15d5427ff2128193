namespace ScriptArena.Script

def isIndent (c : Char) : Bool := c == ' ' || c == '\t'

-- A line of blanks and tabs alone is emptied and has no say in the margin.
def isBlankLine (line : List Char) : Bool := line.all isIndent

def indentOf (line : List Char) : List Char := line.takeWhile isIndent

def commonStart : List Char → List Char → List Char
  | a :: as, b :: bs => if a = b then a :: commonStart as bs else []
  | _, _ => []

-- The margin of the lines that hold more than blanks; none if there is no such line.
def marginOf (lines : List (List Char)) : List Char :=
  match (lines.filter (!isBlankLine ·)).map indentOf with
  | [] => []
  | first :: rest => rest.foldl commonStart first

def splitLines (cs : List Char) : List (List Char) :=
  cs.foldr (fun c acc => match acc with
    | line :: rest => if c = '\n' then [] :: line :: rest else (c :: line) :: rest
    | [] => [[c]]) [[]]

def joinLines : List (List Char) → List Char
  | [] => []
  | [line] => line
  | line :: rest => line ++ '\n' :: joinLines rest

-- Blank lines come out empty and all others without the margin.
def dedentLines (lines : List (List Char)) : List (List Char) :=
  let margin := marginOf lines
  lines.map fun line => if isBlankLine line then [] else line.drop margin.length

def dedent (text : String) : String :=
  String.ofList (joinLines (dedentLines (splitLines text.toList)))

end ScriptArena.Script
