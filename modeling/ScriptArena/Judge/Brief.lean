import ScriptArena.Value.Sorting
import ScriptArena.Value.Text

namespace ScriptArena

namespace Brief

def maxLevel : Nat := 3

def maxItems : Nat := 20

def maxSetItems : Nat := 6

def maxLength : Nat := 200

def dots : String := "..."

-- What is kept at either end of a text that is cut.
def headLength : Nat := (maxLength - 3) / 2

def tailLength : Nat := maxLength - 3 - headLength

def cut (cs : List Char) : List Char :=
  cs.take headLength ++ dots.toList ++ cs.drop (cs.length - tailLength)

def shorten (s : String) : String :=
  if maxLength < s.length then String.ofList (cut s.toList) else s

-- Quotes and escapes count, so a text is cut before and after it is quoted.
def quote (s : String) : String :=
  let cs := s.toList
  let shown := Text.quote (String.ofList (cs.take maxLength))
  if maxLength < shown.length then
    let ends := cs.take headLength ++ cs.drop (cs.length - tailLength)
    String.ofList (cut (Text.quote (String.ofList ends)).toList)
  else shown

-- Items in order, if they have one; in the order in which they come otherwise.
def inOrder (h : Heap) (xs : List Value) : List Value :=
  match Sorting.sort (Value.ordered h .lt maxValueDepth) xs with
  | (sorted, none) => sorted
  | (_, some _) => xs

def joined (left right : String) (count most : Nat) (shown : List String) : String :=
  let shown := if most < count then shown ++ [dots] else shown
  left ++ ", ".intercalate shown ++ right

def bracketed (left right : String) (most : Nat) (items : List Value)
    (inner : Option (Value → Except Trouble String)) : Except Trouble String :=
  match inner with
  | none => .ok (if items.isEmpty then left ++ right else left ++ dots ++ right)
  | some inner => do
    return joined left right items.length most (← (items.take most).mapM inner)

-- What cannot be shown is at least named.
def whole (h : Heap) (v : Value) : String :=
  match v.quoted h with
  | .ok s => shorten s
  | .error _ => "<" ++ v.typeName ++ " instance at 0x0>"

def entries (h : Heap) (d : Dict) (inner : Option (Value → Except Trouble String)) :
    Except Trouble String :=
  match inner with
  | none => .ok (if d.size = 0 then "\x7b\x7d" else "\x7b" ++ dots ++ "\x7d")
  | some inner => do
    let keys := inOrder h (d.shown .keys)
    let shown ← (keys.take maxItems).mapM fun k => do
      let v := ((k.key?).toOption.bind d.find?).getD .none
      return (← inner k) ++ ": " ++ (← inner v)
    return joined "\x7b" "\x7d" keys.length maxItems shown

def showWith (h : Heap) (inner : Option (Value → Except Trouble String)) (v : Value) :
    Except Trouble String :=
  match v with
  | .list i => bracketed "[" "]" maxItems (h.listAt i).toList inner
  | .tuple _ items =>
    bracketed "(" (if items.length = 1 && inner.isSome then ",)" else ")") maxItems items inner
  | .dict i => entries h (h.dictAt i) inner
  | .set _ items =>
    if items.isEmpty then .ok "set()"
    else bracketed "\x7b" "\x7d" maxSetItems (inOrder h items) inner
  | .str s => .ok (quote s)
  | .int n => do return shorten (← decimalText n)
  | v => .ok (whole h v)

def showAt (h : Heap) : Nat → Value → Except Trouble String
  | 0, v => showWith h none v
  | level + 1, v => showWith h (some (showAt h level)) v

end Brief

def Value.brief (h : Heap) (v : Value) : Except Trouble String := Brief.showAt h Brief.maxLevel v

end ScriptArena
