import ScriptArena.Text.Blank
import ScriptArena.Text.Letter

namespace ScriptArena.Increment

-- A place in a text: the character before it, and the text behind it.
structure Place where
  before : Option Char
  rest : List Char

-- What is looked for at a place: all the places where it may end.
abbrev Pattern := Place → List Place

def isWordEdge (p : Place) : Bool :=
  p.before.any Text.isWordChar != p.rest.head?.any Text.isWordChar

def edge : Pattern := fun p => if isWordEdge p then [p] else []

def advance (p : Place) : Nat → Place
  | 0 => p
  | n + 1 =>
    match p.rest with
    | [] => p
    | c :: rest => advance ⟨some c, rest⟩ n

def literal (text : List Char) : Pattern := fun p =>
  if text.isPrefixOf p.rest then [advance p text.length] else []

def blanksFrom (before : Option Char) : List Char → List Place
  | [] => [⟨before, []⟩]
  | c :: rest => ⟨before, c :: rest⟩ :: if Text.isBlank c then blanksFrom (some c) rest else []

-- Any number of blanks.
def blanks : Pattern := fun p => blanksFrom p.before p.rest

def chain (ps : List Pattern) : Pattern := fun p =>
  ps.foldl (fun places q => places.flatMap q) [p]

def one : List Pattern := [blanks, literal ['1'], edge]

def short (var : List Char) : Pattern :=
  chain ([edge, literal var, blanks, literal ['+', '=']] ++ one)

def long (var : List Char) : Pattern :=
  chain ([edge, literal var, blanks, literal ['='], blanks, literal var, blanks, literal ['+']] ++
    one)

-- Both `n += 1` and `n = n + 1` count `n` up, with any blanks in between.
def matchesAt (var : List Char) (p : Place) : Bool :=
  !(short var p).isEmpty || !(long var p).isEmpty

def occursFrom (var : List Char) (before : Option Char) : List Char → Bool
  | [] => matchesAt var ⟨before, []⟩
  | c :: rest => matchesAt var ⟨before, c :: rest⟩ || occursFrom var (some c) rest

def occursIn (var : String) (text : String) : Bool := occursFrom var.toList none text.toList

end ScriptArena.Increment
