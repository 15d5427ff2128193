import ScriptArena.Number.Shortest
import ScriptArena.Text.Quoted
import ScriptArena.Value.Compare

namespace ScriptArena

-- Integers with too many digits have no decimal text. Up to 14000 bits there are not too many.
def decimalText (n : Int) : Except Trouble String :=
  if Number.bitLength n.natAbs ≤ 14000 ∨ n.natAbs < Nat.pow 10 Number.maxDecimalDigits then .ok (Number.intText n)
  else .error (.failure .tooManyDigits)

def complexLayout : Number.Layout := { Number.plainLayout with keepPoint := false }

def withSign (text : String) : String :=
  if text.toList.head? == some '-' then text else "+" ++ text

def complexText (re im : Float) : String :=
  if re == 0.0 && !Number.Binary64.signBit re then complexLayout.text im ++ "j"
  else "(" ++ complexLayout.text re ++ withSign (complexLayout.text im) ++ "j)"

namespace Value

-- How a container appears inside itself; none for values that cannot hold themselves.
def ellipsisMark? : Value → Option String
  | .list _ => some "[...]"
  | .dict _ => some "\x7b...\x7d"
  | .tuple .. => some "(...)"
  | .view .. => some "..."
  | _ => Option.none

def quotedTuple : List String → String
  | [s] => "(" ++ s ++ ",)"
  | ss => "(" ++ ", ".intercalate ss ++ ")"

def quotedDict (entries : List (String × String)) : String :=
  "\x7b" ++ ", ".intercalate (entries.map fun (k, v) => k ++ ": " ++ v) ++ "\x7d"

-- The quoted form of a value. `opened` holds the containers around it.
def quotedIn (h : Heap) : Nat → List Value → Value → Except Trouble String
  | 0, _, _ => .error .tooDeep
  | room + 1, opened, v =>
    match if opened.any (·.same v) then v.ellipsisMark? else Option.none with
    | some mark => .ok mark
    | Option.none =>
      let inner := quotedIn h room (v :: opened)
      let entries (d : Dict) : Except Trouble (List (String × String)) :=
        d.toList.mapM fun (k, w) => do return (← inner k, ← inner w)
      match v with
      | .none => .ok "None"
      | .bool b => .ok (if b then "True" else "False")
      | .int n => decimalText n
      | .float x => .ok (Number.floatText x)
      | .complex re im => .ok (complexText re im)
      | .str s => .ok (Text.quote s)
      | .bytes b => .ok (Text.quoteBytes b)
      | .ellipsis => .ok "Ellipsis"
      | .range a b c => do
        let ends := (← decimalText a) ++ ", " ++ (← decimalText b)
        if c = 1 then return "range(" ++ ends ++ ")"
        else return "range(" ++ ends ++ ", " ++ (← decimalText c) ++ ")"
      | .tuple _ items => do return quotedTuple (← items.mapM inner)
      | .set _ items => do
        if items.isEmpty then return "set()"
        else return "\x7b" ++ ", ".intercalate (← items.mapM inner) ++ "\x7d"
      | .list i => do
        return "[" ++ ", ".intercalate (← (h.listAt i).toList.mapM inner) ++ "]"
      | .dict i => do return quotedDict (← entries (h.dictAt i))
      | .view _ kind i => do
        let shown ← match kind with
          | .keys | .values => ((h.dictAt i).shown kind).mapM inner
          | .items =>
            (entries (h.dictAt i)).map (·.map fun (k, w) => quotedTuple [k, w])
        return v.typeName ++ "([" ++ ", ".intercalate shown ++ "])"
      | .function i => .ok ("<function " ++ (h.closureAt i).name ++ ">")
      | .builtin b => .ok ("<built-in function " ++ b.name ++ ">")

def quoted (h : Heap) (v : Value) : Except Trouble String := quotedIn h maxValueDepth [] v

def text (h : Heap) : Value → Except Trouble String
  | .str s => .ok s
  | v => v.quoted h

def asciiQuoted (h : Heap) (v : Value) : Except Trouble String := do
  return Text.asciiOnly (← v.quoted h)

-- The failure of a key that is not there shows the key, if the key can be shown.
def missingKey (h : Heap) (k : Value) : Trouble := .failure (.missingKey (k.quoted h).toOption)

end Value
end ScriptArena
