import Std.Data.HashMap
import ScriptArena.Number.Binary64
import ScriptArena.Value.Fault

namespace ScriptArena

inductive Builtin where
  | print | len | range | sum | min | max | abs | list | sorted | str | int
deriving Repr, DecidableEq, Hashable

namespace Builtin

def name : Builtin → String
  | .print => "print" | .len => "len" | .range => "range" | .sum => "sum" | .min => "min"
  | .max => "max" | .abs => "abs" | .list => "list" | .sorted => "sorted" | .str => "str"
  | .int => "int"

def all : List Builtin :=
  [.print, .len, .range, .sum, .min, .max, .abs, .list, .sorted, .str, .int]

def ofName? (name : String) : Option Builtin := all.find? (·.name == name)

end Builtin

inductive ViewKind where
  | keys | values | items
deriving Repr, DecidableEq, Hashable

-- Which object a value is. Objects are numbered when the submission gets hold of them; before that
-- they have no number.
abbrev Mark := Option Nat

-- A float. Only a NaN needs a mark: nothing else tells it from another one.
structure FloatObject where
  value : Float
  mark : Mark := none

instance : CoeOut FloatObject Float := ⟨FloatObject.value⟩

-- Lists, mappings and functions are places in a heap. Tuples, sets, views and NaNs are told apart by
-- their marks. All other values are told apart by what they are: the language lets equal ones be
-- one object.
inductive Value where
  | none
  | bool (b : Bool)
  | int (n : Int)
  | float (x : FloatObject)
  | complex (re im : FloatObject)
  | str (s : String)
  | bytes (b : List UInt8)
  | ellipsis
  | range (start stop step : Int)
  | tuple (mark : Mark) (items : List Value)
  | set (mark : Mark) (items : List Value)
  | list (at_ : Nat)
  | dict (at_ : Nat)
  | view (mark : Mark) (kind : ViewKind) (at_ : Nat)
  | function (at_ : Nat)
  | builtin (b : Builtin)
deriving Inhabited

namespace Value

-- Numbers as operations make them.
abbrev ofFloat (x : Float) : Value := .float ⟨x, Option.none⟩

abbrev ofComplex (re im : Float) : Value := .complex ⟨re, Option.none⟩ ⟨im, Option.none⟩

def typeName : Value → String
  | .none => "NoneType"
  | .bool _ => "bool"
  | .int _ => "int"
  | .float _ => "float"
  | .complex .. => "complex"
  | .str _ => "str"
  | .bytes _ => "bytes"
  | .ellipsis => "ellipsis"
  | .range .. => "range"
  | .tuple .. => "tuple"
  | .set .. => "set"
  | .list _ => "list"
  | .dict _ => "dict"
  | .view _ .keys _ => "dict_keys"
  | .view _ .values _ => "dict_values"
  | .view _ .items _ => "dict_items"
  | .function _ => "UserFunction"
  | .builtin _ => "_Builtin"

-- Truth values count as integers.
def int? : Value → Option Int
  | .int n => some n
  | .bool b => some (if b then 1 else 0)
  | _ => Option.none

end Value

-- The number of elements of a range.
def rangeLength (start stop step : Int) : Nat :=
  if 0 < step then ((stop - start + step - 1) / step).toNat
  else if step < 0 then ((start - stop - step - 1) / (-step)).toNat
  else 0

-- An object without a number is the same as no other.
def sameMark : Mark → Mark → Bool
  | some m, some n => m == n
  | _, _ => false

def FloatObject.same (x y : FloatObject) : Bool :=
  x.value.toBits == y.value.toBits && (!x.value.isNaN || sameMark x.mark y.mark)

mutual

-- Are two values the same object? There is only one empty tuple.
def Value.same : Value → Value → Bool
  | .none, .none | .ellipsis, .ellipsis => true
  | .bool a, .bool b => a == b
  | .int a, .int b => a == b
  | .float a, .float b => a.same b
  | .complex a b, .complex c d => a.same c && b.same d
  | .str a, .str b => a == b
  | .bytes a, .bytes b => a == b
  | .range a b c, .range d e f => a == d && b == e && c == f
  | .tuple m a, .tuple n b => sameList a b && (a.isEmpty || sameMark m n)
  | .set m a, .set n b => sameList a b && sameMark m n
  | .list a, .list b | .dict a, .dict b | .function a, .function b => a == b
  | .view m k a, .view n l b => k == l && a == b && sameMark m n
  | .builtin a, .builtin b => a == b
  | _, _ => false

def sameList : List Value → List Value → Bool
  | [], [] => true
  | a :: as, b :: bs => a.same b && sameList as bs
  | _, _ => false

end

-- What a mapping compares keys by: two values that may serve as keys are equal iff their
-- keys are. Numbers of different types meet in `num` when they are whole.
inductive Key where
  | none
  | ellipsis
  | num (n : Int)
  | float (bits : UInt64)
  | complex (re im : UInt64)
  | str (s : String)
  | bytes (b : List UInt8)
  | range (length : Nat) (start step : Int)
  | tuple (keys : List Key)
  | builtin (b : Builtin)
  | object (mark : Mark)
deriving Hashable, Inhabited

namespace Key

mutual

def same : Key → Key → Bool
  | .none, .none | .ellipsis, .ellipsis => true
  | .num m, .num n => m == n
  | .float a, .float b => a == b
  | .complex a b, .complex c d => a == c && b == d
  | .str s, .str t => s == t
  | .bytes a, .bytes b => a == b
  | .range a b c, .range d e f => a == d && b == e && c == f
  | .tuple as, .tuple bs => sameAll as bs
  | .builtin a, .builtin b => a == b
  | .object m, .object n => m == n
  | _, _ => false

def sameAll : List Key → List Key → Bool
  | [], [] => true
  | a :: as, b :: bs => same a b && sameAll as bs
  | _, _ => false

end

instance : BEq Key := ⟨same⟩

mutual

theorem eq_of_same {a b : Key} (alike : same a b = true) : a = b := by
  cases a with
  | tuple as =>
    cases b with
    | tuple bs =>
      rw [same] at alike
      rw [eq_of_sameAll alike]
    | _ => cases alike
  | _ =>
    cases b with
    | _ => simp_all [same]

theorem eq_of_sameAll {as bs : List Key} (alike : sameAll as bs = true) : as = bs := by
  cases as with
  | nil =>
    cases bs with
    | nil => rfl
    | cons => cases alike
  | cons a as =>
    cases bs with
    | nil => cases alike
    | cons b bs =>
      rw [sameAll, Bool.and_eq_true] at alike
      rw [eq_of_same alike.1, eq_of_sameAll alike.2]

end

mutual

theorem same_self (a : Key) : same a a = true := by
  cases a with
  | tuple as => exact sameAll_self as
  | _ => simp [same]

theorem sameAll_self (as : List Key) : sameAll as as = true := by
  cases as with
  | nil => rfl
  | cons a as => rw [sameAll, same_self a, sameAll_self as, Bool.and_true]

end

instance : LawfulBEq Key where
  eq_of_beq := eq_of_same
  rfl := same_self _

-- A NaN is a key by being the object that it is.
def ofFloat (x : FloatObject) : Key :=
  if x.value.isNaN then .object x.mark
  else match Number.Binary64.integer? x with
    | some n => .num n
    | Option.none => .float x.value.toBits

def ofComplex (re im : FloatObject) : Key :=
  if re.value.isNaN || im.value.isNaN then .object (re.mark <|> im.mark)
  else if im.value == 0.0 then ofFloat re
  else .complex (re.value + 0.0).toBits im.value.toBits

-- Ranges with the same elements are the same key.
def ofRange (start stop step : Int) : Key :=
  let n := rangeLength start stop step
  .range n (if n = 0 then 0 else start) (if n ≤ 1 then 0 else step)

end Key

mutual

-- The key of a value; values that change, and functions of the submission, have none.
def Value.key? : Value → Except Trouble Key
  | .none => .ok .none
  | .ellipsis => .ok .ellipsis
  | .bool b => .ok (.num (if b then 1 else 0))
  | .int n => .ok (.num n)
  | .float x => .ok (Key.ofFloat x)
  | .complex re im => .ok (Key.ofComplex re im)
  | .str s => .ok (.str s)
  | .bytes b => .ok (.bytes b)
  | .range a b c => .ok (Key.ofRange a b c)
  | .tuple _ items => do return .tuple (← keyList items)
  | .builtin b => .ok (.builtin b)
  | .view mark .values _ => .ok (.object mark)
  | v@(.set ..) | v@(.list _) | v@(.dict _) | v@(.function _)
  | v@(.view _ .keys _) | v@(.view _ .items _) => .error (.failure (.notHashable v.typeName))

def keyList : List Value → Except Trouble (List Key)
  | [] => .ok []
  | v :: rest => do return (← v.key?) :: (← keyList rest)

end

end ScriptArena
