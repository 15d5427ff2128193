import ScriptArena.Script.Tree

namespace ScriptArena.Script

-- Why a text stops being a sequence of tokens. A `malformed` token is noticed wherever it
-- stands; the other faults count only once a reader gets to them.
inductive LexFault where
  | malformed
  | strayContinuation
  | unfinished
  | mixedTabs
  | unmatchedDedent
  | tooManyIndents
deriving Repr, DecidableEq

structure TextLiteral where
  isBytes : Bool
  isRaw : Bool
  isTemplate : Bool
  body : List Char
  line : Nat
deriving Repr, DecidableEq

-- `number none` is an integer with more digits than are converted.
inductive Token where
  | name (id : String)
  | keyword (word : String)
  | number (value : Option Constant)
  | text (literal : TextLiteral)
  | op (symbol : String)
  | newline
  | indent
  | dedent
  | finish
  | fault (f : LexFault)
deriving Repr

structure Lexeme where
  token : Token
  line : Nat
deriving Repr

def keywords : List String :=
  ["False", "None", "True", "and", "as", "assert", "async", "await", "break", "class",
   "continue", "def", "del", "elif", "else", "except", "finally", "for", "from", "global",
   "if", "import", "in", "is", "lambda", "nonlocal", "not", "or", "pass", "raise", "return",
   "try", "while", "with", "yield"]

def threeCharOperators : List String := ["**=", "//=", "<<=", ">>=", "..."]

def twoCharOperators : List String :=
  ["!=", "%=", "&=", "**", "*=", "+=", "-=", "->", "//", "/=", ":=", "<<", "<=", "<>", "==",
   ">=", ">>", "@=", "^=", "|="]

end ScriptArena.Script
