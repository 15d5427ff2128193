import ScriptArena.Value.Index

namespace ScriptArena

-- Arguments by position, and by name in the order in which the names appeared first.
structure Arguments where
  positional : List Value
  named : List (String × Value)

namespace Arguments

-- A repeated name keeps its place and takes the last value.
def name (named : List (String × Value)) (key : String) (v : Value) : List (String × Value) :=
  if named.any (·.1 == key) then
    named.map fun (k, w) => if k == key then (k, v) else (k, w)
  else named ++ [(key, v)]

def plural (n : Nat) : String := if n = 1 then "" else "s"

def noNames (callee : String) (args : Arguments) : Except Trouble Unit :=
  if args.named.isEmpty then .ok ()
  else .error (.type s!"{callee}() takes no keyword arguments")

def none_ (callee : String) (args : Arguments) : Except Trouble Unit := do
  args.noNames callee
  match args.positional.length with
  | 0 => return ()
  | n => throw (.type s!"{callee}() takes no arguments ({n} given)")

def one (callee : String) (args : Arguments) : Except Trouble Value := do
  args.noNames callee
  match args.positional with
  | [v] => return v
  | vs => throw (.type s!"{callee}() takes exactly one argument ({vs.length} given)")

def few (low high n : Nat) : String := if n < low then
    (if low = high then "" else "at least ")
  else if low = high then "" else "at most "

-- Between `low` and `high` arguments; `short` is the name without its type.
def between (callee short : String) (low high : Nat) (args : Arguments) :
    Except Trouble (List Value) := do
  args.noNames callee
  let n := args.positional.length
  let bound := if n < low then low else high
  if n < low ∨ high < n then
    throw (.type s!"{short} expected {few low high n}{bound} argument{plural bound}, got {n}")
  return args.positional

-- The same for callees that count in a sentence.
def counted (callee short : String) (low high : Nat) (args : Arguments) :
    Except Trouble (List Value) := do
  args.noNames callee
  let n := args.positional.length
  let bound := if n < low then low else high
  if n < low ∨ high < n then
    throw (.type s!"{short}() takes {few low high n}{bound} argument{plural bound} ({n} given)")
  return args.positional

-- Arguments by position or name, all of them optional: first `hidden` ones without a name, then
-- those with the given names. At most `positions` of them go by position.
def optional (short : String) (hidden : Nat) (names : List String) (positions : Nat)
    (args : Arguments) : Except Trouble (List (Option Value)) := do
  let most := hidden + names.length
  let n := args.positional.length
  let total := n + args.named.length
  if most < total then
    let kind := if n = 0 then "keyword " else ""
    throw (.type s!"{short}() takes at most {most} {kind}argument{plural most} ({total} given)")
  if positions < n then
    throw (.type s!"{short}() takes no positional arguments")
  for (key, place) in (names.zipIdx hidden).take (n - hidden) do
    if args.named.any (·.1 == key) then
      throw (.type (s!"argument for {short}() given by name ('{key}') " ++
        s!"and position ({place + 1})"))
  for (key, _) in args.named do
    if !names.contains key then
      throw (.type s!"'{key}' is an invalid keyword argument for {short}()")
  let slots := List.replicate hidden "" ++ names
  return slots.zipIdx.map fun (key, place) =>
    match args.positional[place]? with
    | some v => some v
    | none => args.named.lookup key

-- A callee that is called by the rules for submitted functions. One argument, the object that
-- it belongs to, may be there already.
structure Signature where
  callee : String
  bound : Bool
  params : List String
  required : Nat
  rest : Bool
  keywordOnly : List String

structure Bound where
  params : List (Option Value)
  rest : List Value
  keywordOnly : List (Option Value)

namespace Signature

def checkNames (s : Signature) (given : List String) : List String → Except Trouble Unit
  | [] => .ok ()
  | key :: more =>
    if given.contains key then .error (.failure (.repeatedArgument s.callee key))
    else if s.params.contains key || s.keywordOnly.contains key then
      checkNames s given more
    else .error (.failure (.unexpectedKeyword s.callee key))

-- The object that is there already counts.
def tooMany (s : Signature) (given : Nat) : Trouble :=
  let self := if s.bound then 1 else 0
  let most := s.params.length + self
  let least := s.required + self
  let given := given + self
  let takes := if least < most then s!"from {least} to {most} positional arguments"
    else s!"{most} positional argument{plural most}"
  .type (s!"{s.callee}() takes {takes} but {given} " ++
    (if given = 1 then "was given" else "were given"))

def bind (s : Signature) (args : Arguments) : Except Trouble Bound := do
  let n := args.positional.length
  s.checkNames (s.params.take n) (args.named.map (·.1))
  if s.params.length < n && !s.rest then throw (s.tooMany n)
  let params := s.params.zipIdx.map fun (key, place) =>
    match args.positional[place]? with
    | some v => some v
    | none => args.named.lookup key
  for (key, v) in (s.params.zip params).take s.required do
    if v.isNone then
      throw (.type s!"{s.callee}() missing 1 required positional argument: '{key}'")
  return ⟨params, args.positional.drop s.params.length,
    s.keywordOnly.map fun key => args.named.lookup key⟩

end Signature
end Arguments

namespace Value

def toIndex (v : Value) : Except Trouble Int :=
  match v.int? with
  | some n => .ok n
  | Option.none => .error (.failure (.notInteger v.typeName))

-- An integer that fits a signed word of 64 bits.
def toSize (v : Value) : Except Trouble Int := do
  let n ← v.toIndex
  if fitsIndex n then return n
  else throw (.raised .overflow "Python int too large to convert to C ssize_t")

-- An integer that fits a signed word of 32 bits.
def toFlag (v : Value) : Except Trouble Bool := do
  let n ← v.toIndex
  if -0x80000000 ≤ n ∧ n < 0x80000000 then return n != 0
  else throw (.raised .overflow "Python int too large to convert to C int")

end Value

-- A part of a sequence of the given length, from `start` to before `stop`. Bounds count from the
-- end if they are negative, and are moved into the sequence.
def stretch (length : Nat) (start stop : Option Int) : Int × Int :=
  let fromEnd (n : Int) : Int := if n < 0 then max (n + length) 0 else n
  (fromEnd (start.getD 0), match stop with
    | some n => if (length : Int) < n then length else fromEnd n
    | none => length)

end ScriptArena
