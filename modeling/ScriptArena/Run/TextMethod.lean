import ScriptArena.Run.Builtin
import ScriptArena.Text.Casing
import ScriptArena.Text.Letter

namespace ScriptArena

inductive TextMethod where
  | upper | lower | title | capitalize
  | strip | lstrip | rstrip
  | split | join
  | startswith | endswith
  | find | index | count
  | isdigit | isalpha | isalnum | isspace
deriving Repr, DecidableEq

namespace TextMethod

def name : TextMethod → String
  | .upper => "upper" | .lower => "lower" | .title => "title" | .capitalize => "capitalize"
  | .strip => "strip" | .lstrip => "lstrip" | .rstrip => "rstrip"
  | .split => "split" | .join => "join"
  | .startswith => "startswith" | .endswith => "endswith"
  | .find => "find" | .index => "index" | .count => "count"
  | .isdigit => "isdigit" | .isalpha => "isalpha" | .isalnum => "isalnum"
  | .isspace => "isspace"

def all : List TextMethod :=
  [.upper, .lower, .title, .capitalize, .strip, .lstrip, .rstrip, .split, .join, .startswith,
    .endswith, .find, .index, .count, .isdigit, .isalpha, .isalnum, .isspace]

def callee (m : TextMethod) : String := "str." ++ m.name

def convert (m : TextMethod) (rule : String → Value) (s : String) (args : Arguments) :
    Except Trouble Made := do
  args.none_ m.callee
  return .value (rule s)

-- True for texts that have characters, all of one class.
def allOf (class_ : Char → Bool) (s : String) : Value := .bool (!s.isEmpty && s.toList.all class_)

def stripped (m : TextMethod) (drop : Char → Bool) (s : String) : String :=
  let cs := s.toList
  let cs := if m = .rstrip then cs else cs.dropWhile drop
  String.ofList (if m = .lstrip then cs else (cs.reverse.dropWhile drop).reverse)

def stripBy (m : TextMethod) (s : String) (args : Arguments) : Except Trouble Made := do
  match ← args.between m.callee m.name 0 1 with
  | [] | [.none] => return .value (.str (stripped m Text.isBlank s))
  | [.str set] => return .value (.str (stripped m (set.toList.contains ·) s))
  | _ => throw (.type s!"{m.name} arg must be None or str")

-- A number of cuts below zero means all of them.
def splitBy (s : String) (args : Arguments) : Except Trouble Made := do
  let parts ← args.optional "split" 0 ["sep", "maxsplit"] 2
  let cuts ← match parts with
    | [_, some n] => n.toSize
    | _ => pure (-1)
  let cuts := if cuts < 0 then s.length else cuts.toNat
  let pieces ← match parts.head?.join with
    | none | some .none => pure (Text.splitBlanks Text.isBlank s.toList cuts)
    | some (.str mark) =>
      if mark.isEmpty then throw (.value "empty separator")
      else pure (Text.splitMark mark.toList s.toList cuts)
    | some v => throw (.type s!"must be str or None, not {v.typeName}")
  return .list ((pieces.map fun cs => Value.str (String.ofList cs)).toArray)

-- The first argument and the stretch of the text that the further ones pick.
def located (m : TextMethod) (s : String) (args : Arguments) :
    Except Trouble (Value × Int × Int) := do
  let given ← args.counted m.callee m.name 1 3
  let bound (n : Nat) : Except Trouble (Option Int) := sliceBound (given[n]?.getD .none)
  let (start, stop) := stretch s.length (← bound 1) (← bound 2)
  return (given.headD .none, start, stop)

def slice (s : String) (start stop : Int) : List Char :=
  (s.toList.drop start.toNat).take (stop - start).toNat

def needle : Value → Except Trouble (List Char)
  | .str part => .ok part.toList
  | v => .error (.type s!"must be str, not {v.typeName}")

-- The place of a part within a stretch, counted from the start of the text.
def place? (s : String) (part : List Char) (start stop : Int) : Option Nat :=
  if stop - start < part.length then none
  else Text.findPart part (slice s start stop) start.toNat

def findIn (m : TextMethod) (s : String) (args : Arguments) : Except Trouble (Option Nat) := do
  let (v, start, stop) ← located m s args
  return place? s (← needle v) start stop

def countIn (m : TextMethod) (s : String) (args : Arguments) : Except Trouble Made := do
  let (v, start, stop) ← located m s args
  let part ← needle v
  if stop - start < part.length then return .value (.int 0)
  else return .value (.int (Text.countPart part (slice s start stop)))

-- Does the stretch begin, or end, with the part?
def touches (m : TextMethod) (s : String) (start stop : Int) (part : List Char) : Bool :=
  let latest := stop - part.length
  if latest < start then false
  else
    let from_ := if m = .endswith then latest else start
    part == (s.toList.drop from_.toNat).take part.length

-- The parts are tried in turn, up to the first that fits.
def touchesAny (m : TextMethod) (s : String) (start stop : Int) : List Value → Except Trouble Bool
  | [] => .ok false
  | .str part :: rest =>
    if touches m s start stop part.toList then .ok true else touchesAny m s start stop rest
  | v :: _ => .error (.type s!"tuple for {m.name} must only contain str, not {v.typeName}")

def affix (m : TextMethod) (s : String) (args : Arguments) : Except Trouble Made := do
  let (v, start, stop) ← located m s args
  match v with
  | .str part => return .value (.bool (touches m s start stop part.toList))
  | .tuple _ parts => return .value (.bool (← touchesAny m s start stop parts))
  | v => throw (.type s!"{m.name} first arg must be str or a tuple of str, not {v.typeName}")

def apply (m : TextMethod) (s : String) (args : Arguments) : Except Trouble Made :=
  match m with
  | .upper => convert m (fun s => .str (Text.upper s)) s args
  | .lower => convert m (fun s => .str (Text.lower s)) s args
  | .title => convert m (fun s => .str (Text.title s)) s args
  | .capitalize => convert m (fun s => .str (Text.capitalize s)) s args
  | .isdigit => convert m (allOf Text.isDigit) s args
  | .isalpha => convert m (allOf Text.isLetter) s args
  | .isalnum => convert m (allOf Text.isAlphanumeric) s args
  | .isspace => convert m (allOf Text.isBlank) s args
  | .strip | .lstrip | .rstrip => stripBy m s args
  | .split => splitBy s args
  | .startswith | .endswith => affix m s args
  | .find => do
    return .value (.int (match ← findIn m s args with
      | some n => n
      | none => -1))
  | .index => do
    match ← findIn m s args with
    | some n => return .value (.int n)
    | none => throw (.value "substring not found")
  | .count => countIn m s args
  | .join => .ok (.value .none)

end TextMethod

namespace Run

def overIterable : Arguments.Signature :=
  ⟨"Interpreter._resolve_method.<locals>.<lambda>", false, ["iterable"], 1, false, []⟩

-- The items of the only argument.
def itemsOf (args : Arguments) : Run (Array Value) := do
  let b ← settle (overIterable.bind args)
  collect ((b.params.head?.join).getD .none)

end Run

open Run in
def TextMethod.call (m : TextMethod) (s : String) (args : Arguments) : Run Value :=
  match m with
  | .join => do
    let items ← itemsOf args
    return .str (← joinTexts s items.toList)
  | m => do keep (← settle (m.apply s args))

end ScriptArena
