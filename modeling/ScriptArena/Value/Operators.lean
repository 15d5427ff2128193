import ScriptArena.Text.Search
import ScriptArena.Value.Cursor
import ScriptArena.Value.Template

namespace ScriptArena

def Script.Operator.symbol : Script.Operator → String
  | .add => "+" | .sub => "-" | .mul => "*" | .div => "/" | .floorDiv => "//" | .mod => "%"
  | .pow => "** or pow()" | .matMul => "@" | .bitAnd => "&" | .bitOr => "|" | .bitXor => "^"
  | .leftShift => "<<" | .rightShift => ">>"

-- The operators that are not evaluated; their name is all that a fault shows of them.
def Script.Operator.foreign? : Script.Operator → Option String
  | .matMul => some "MatMult" | .bitAnd => some "BitAnd" | .bitOr => some "BitOr"
  | .bitXor => some "BitXor" | .leftShift => some "LShift" | .rightShift => some "RShift"
  | _ => none

namespace Value

def badOperands (op : Script.Operator) (a b : Value) : Trouble :=
  .failure (.badOperands op.symbol a.typeName b.typeName)

def concat (h : Heap) (a b : Value) : Except Trouble Made :=
  match a, b with
  | .str s, .str t => .ok (.value (.str (s ++ t)))
  | .list i, .list j => .ok (.list (h.listAt i ++ h.listAt j))
  | .tuple _ xs, .tuple _ ys =>
    .ok (.value (if xs.isEmpty then b else if ys.isEmpty then a else .tuple Option.none (xs ++ ys)))
  | .bytes s, .bytes t => .ok (.value (.bytes (s ++ t)))
  | .str _, _ | .list _, _ | .tuple .., _ =>
    .error (.failure (.cannotConcat a.typeName b.typeName))
  | .bytes _, _ => .error (.type s!"can't concat {b.typeName} to bytes")
  | _, _ => .error (badOperands .add a b)

def isRepeatable : Value → Bool
  | .str _ | .list _ | .tuple .. | .bytes _ => true
  | _ => false

-- A list `n` times over; nothing is repeated if there is nothing to repeat.
def times {α : Type} (n : Nat) (xs : List α) : List α :=
  if xs.isEmpty then [] else (List.replicate n xs).flatten

-- A count below zero counts as zero. A tuple that is repeated once is that tuple.
def repeated (h : Heap) (a : Value) (n : Int) : Except Trouble Made :=
  if !fitsIndex n then .error (.raised .overflow "cannot fit 'int' into an index-sized integer")
  else
    let n := n.toNat
    match a with
    | .str s =>
      .ok (.value (.str (if s.isEmpty then "" else String.join (List.replicate n s))))
    | .list i => .ok (.list (times n (h.listAt i).toList).toArray)
    | .tuple _ xs => .ok (.value (if n = 1 then a else .tuple Option.none (times n xs)))
    | .bytes s => .ok (.value (.bytes (times n s)))
    | v => .error (badOperands .mul v (.int n))

-- A sequence on either side is repeated; if there is one on both sides, the left one.
def repeatedBy (h : Heap) (a b : Value) : Except Trouble Made :=
  let by_ (sequence count : Value) : Except Trouble Made :=
    match count.int? with
    | some n => repeated h sequence n
    | Option.none => .error (.failure (.cannotRepeat count.typeName))
  if a.isRepeatable then by_ a b
  else if b.isRepeatable then by_ b a
  else .error (badOperands .mul a b)

def dedupe : List (Key × Value) → List Key → List Value
  | [], _ => []
  | (k, v) :: rest, seen =>
    if seen.contains k then dedupe rest seen else v :: dedupe rest (k :: seen)

-- What is in the left value and not in the right one, if one of them is a view.
def difference (h : Heap) (a b : Value) : Except Trouble Made :=
  let items (v : Value) : Except Trouble (List Value) :=
    match v.items? h with
    | some xs => .ok xs
    | Option.none => .error (.failure (.notIterable v.typeName))
  let isView : Value → Bool
    | .view _ .keys _ | .view _ .items _ => true
    | _ => false
  let without : Except Trouble Made := do
    let xs ← items a
    let keys ← keyList xs
    let out ← keyList (← items b)
    return .set (dedupe ((keys.zip xs).filter fun (k, _) => !out.contains k) [])
  match a, b with
  | .set .., .set .. => without
  | a, b => if isView a || isView b then without else .error (badOperands .sub a b)

def made (r : Except Trouble Value) : Except Trouble Made := r.map Made.value

def numeric (op : Script.Operator) (rule : Numbers → Except Trouble Value) (a b : Value) :
    Except Trouble Made :=
  match Numbers.meet? a b with
  | some ns => do return .value (← rule (← ns))
  | Option.none => .error (badOperands op a b)

def numericIf (op : Script.Operator) (rule : Numbers → Option (Except Trouble Value))
    (a b : Value) : Except Trouble Made :=
  match Numbers.meet? a b with
  | some ns => do
    match rule (← ns) with
    | some r => return .value (← r)
    | Option.none => throw (badOperands op a b)
  | Option.none => .error (badOperands op a b)

-- A text on the left of `%` is a template.
def modulo (h : Heap) (a b : Value) : Except Trouble Made :=
  match a with
  | .str s => do return .value (.str (← formatText h s b))
  | .bytes s => do return .value (.bytes (← formatBytes h s b))
  | a => numericIf .mod Numbers.mod? a b

def orElse (first : Option (Except Trouble Numbers)) (rule : Numbers → Except Trouble Value)
    (second : Unit → Except Trouble Made) : Except Trouble Made :=
  match first with
  | some ns => do return .value (← rule (← ns))
  | Option.none => second ()

def binary (h : Heap) (op : Script.Operator) (a b : Value) : Except Trouble Made :=
  match op with
  | .add => orElse (Numbers.meet? a b) Numbers.add fun _ => concat h a b
  | .sub => orElse (Numbers.meet? a b) Numbers.sub fun _ => difference h a b
  | .mul => orElse (Numbers.meet? a b) Numbers.mul fun _ => repeatedBy h a b
  | .div => numeric .div Numbers.div a b
  | .floorDiv => numericIf .floorDiv Numbers.floorDiv? a b
  | .mod => modulo h a b
  | .pow => numeric .pow Numbers.pow a b
  | .matMul | .bitAnd | .bitOr | .bitXor | .leftShift | .rightShift =>
    .error (badOperands op a b)

def bytesContain (whole : List UInt8) (item : Value) : Except Trouble Bool :=
  match item with
  | .bytes part => .ok (Text.hasPart part whole)
  | v => match v.int? with
    | some n =>
      if 0 ≤ n ∧ n < 256 then .ok (whole.any fun b => (b.toNat : Int) == n)
      else .error (.value "byte must be in range(0, 256)")
    | Option.none =>
      .error (.type s!"a bytes-like object is required, not '{v.typeName}'")

-- The whole number that a number equals.
def wholeNumber? : Value → Option Int
  | .float x => Number.Binary64.integer? x
  | .complex re im => if im.value == 0.0 then Number.Binary64.integer? re else Option.none
  | v => v.int?

def rangeContains (start stop step : Int) (item : Value) : Bool :=
  match item.wholeNumber? with
  | some n =>
    (if 0 < step then start ≤ n && n < stop else stop < n && n ≤ start) &&
      (n - start) % step = 0
  | Option.none => false

-- Is the item in the container?
def contains (h : Heap) (container item : Value) : Except Trouble Bool :=
  let find (xs : List Value) := xs.anyM fun x => sameOrEqual h maxValueDepth x item
  match container with
  | .str s =>
    match item with
    | .str part => .ok (Text.hasPart part.toList s.toList)
    | v => .error (.type s!"'in <string>' requires string as left operand, not {v.typeName}")
  | .bytes s => bytesContain s item
  | .range a b c => .ok (rangeContains a b c item)
  | .tuple _ xs => find xs
  | .list i => find (h.listAt i).toList
  | .dict i => do return (h.dictAt i).contains (← item.key?)
  | .set .. =>
    match item with
    | .set .. => .ok false
    | v => memberOfSet h (sameOrEqual h maxValueDepth) container v
  | .view .. => memberOfSet h (sameOrEqual h maxValueDepth) container item
  | v => .error (.failure (.notContainer v.typeName))

def compareBy (h : Heap) (op : Script.Comparator) (a b : Value) : Except Trouble Bool :=
  match op with
  | .eq => equal h maxValueDepth a b
  | .ne => (equal h maxValueDepth a b).map not
  | .lt => ordered h .lt maxValueDepth a b
  | .le => ordered h .le maxValueDepth a b
  | .gt => ordered h .gt maxValueDepth a b
  | .ge => ordered h .ge maxValueDepth a b
  | .isIn => contains h b a
  | .notIn => (contains h b a).map not
  | .same => .ok (a.same b)
  | .notSame => .ok !(a.same b)

end Value
end ScriptArena
