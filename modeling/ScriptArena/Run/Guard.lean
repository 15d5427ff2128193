import ScriptArena.Run.Limits
import ScriptArena.Value.Operators

namespace ScriptArena.Guard

-- Room for the decimal digits of a number, its sign and one more.
def numberSize (n : Int) : Nat := Number.bitLength n.natAbs / 3 + 2

def ownSize (h : Heap) : Value → Nat
  | .str s => s.length + 2
  | .bool _ | .none => 5
  | .int n => numberSize n
  | .range a b c => numberSize a + numberSize b + numberSize c + 12
  | .list i => 2 * (h.listAt i).size + 2
  | .tuple _ items => 2 * items.length + 2
  | .dict i => 4 * (h.dictAt i).toList.length + 2
  | _ => 32

-- The values that are shown inside a value.
def parts (h : Heap) : Value → List Value
  | .list i => (h.listAt i).toList
  | .tuple _ items => items
  | .dict i => let d := h.dictAt i; d.shown .keys ++ d.shown .values
  | _ => []

-- Size the pending values one after the other, the one that came last first. Every value adds at
-- least two, so at most half as many as the limit are looked at.
def sizeFrom (h : Heap) (limit : Int) : Nat → List Value → Nat → Except Trouble Nat
  | 0, _, _ => .error (.oversize .text)
  | _ + 1, [], size => .ok size
  | fuel + 1, v :: pending, size =>
    let size := size + ownSize h v
    if limit < size then .error (.oversize .text)
    else sizeFrom h limit fuel ((parts h v).reverse ++ pending) size

-- An upper bound on the length of the text of a value. Shared parts count once for every
-- place where they are shown.
def textSize (h : Heap) (l : Limits) (v : Value) : Except Trouble Nat :=
  sizeFrom h l.maxSequenceLength (l.maxSequenceLength.toNat / 2 + 2) [v] 0

def text (h : Heap) (l : Limits) (v : Value) : Except Trouble String :=
  match v with
  | .str s => .ok s
  | v => do
    let _ ← textSize h l v
    v.text h

def checkSize (l : Limits) (what : Oversize) (size : Int) : Except Trouble Unit :=
  if l.maxSequenceLength < size then .error (.oversize what) else .ok ()

-- A number as it is shown in a complaint.
def shownNumber : Value → Except Trouble String
  | .bool b => .ok (if b then "True" else "False")
  | v => decimalText (v.int?.getD 0)

def exceedsOne : Value → Bool
  | .float x => x.value.abs > 1.0
  | v => 1 < (v.int?.getD 0).natAbs

-- Powers to a whole exponent; a base of at most one never grows.
def power (l : Limits) (base exponent : Value) : Except Trouble Unit :=
  match exponent.int? with
  | some e =>
    if !base.isReal then .ok ()
    else if l.maxExponent < e.natAbs ∧ exceedsOne base then do
      throw (.oversize (.exponent (← shownNumber exponent)))
    else match base.int? with
      | some b =>
        if 0 < e ∧ l.maxIntBits < Number.bitLength b.natAbs * e then
          .error (.oversize .integer)
        else .ok ()
      | none => .ok ()
  | none => .ok ()

-- The length of a list, a tuple or a text.
def sequenceLength? (h : Heap) : Value → Option Nat
  | .str s => some s.length
  | .list i => some (h.listAt i).size
  | .tuple _ items => some items.length
  | _ => none

def product (h : Heap) (l : Limits) (a b : Value) : Except Trouble Unit :=
  match sequenceLength? h a, b.int?, sequenceLength? h b, a.int? with
  | some n, some count, _, _ | _, _, some n, some count =>
    checkSize l .sequence (n * count)
  | _, some n, _, some m =>
    if l.maxIntBits < Number.bitLength m.natAbs + Number.bitLength n.natAbs then
      .error (.oversize .integer)
    else .ok ()
  | _, _, _, _ => .ok ()

-- What is joined to a sequence counts if it has a length.
def join (h : Heap) (l : Limits) (a b : Value) : Except Trouble Unit :=
  match sequenceLength? h a, b.length? h with
  | some n, some m =>
    if 0x8000000000000000 ≤ m then .error (.raised .overflow "Python int too large to convert to C ssize_t")
    else checkSize l .sequence (n + m)
  | _, _ => .ok ()

inductive Width where
  | star
  | digits (ds : List Nat)

def readWidth : List Char → Width × List Char
  | '*' :: rest => (.star, rest)
  | cs => (.digits ((cs.takeWhile Text.isDecimal).filterMap Text.decimalValue?),
      cs.dropWhile Text.isDecimal)

-- Behind a percent sign: a name in brackets, flags, a width and a precision, each if it is there.
def readWidths (cs : List Char) : List Width × List Char :=
  let cs := match cs with
    | '(' :: rest =>
      match rest.dropWhile (· ≠ ')') with
      | _ :: rest => rest
      | [] => cs
    | cs => cs
  let (width, cs) := readWidth (cs.dropWhile Template.isFlag)
  match cs with
  | '.' :: rest =>
    let (precision, rest) := readWidth rest
    ([width, precision], rest)
  | cs => ([width], cs)

def widths : Nat → List Char → List (List Width) → List (List Width)
  | 0, _, found => found.reverse
  | _ + 1, [], found => found.reverse
  | fuel + 1, '%' :: cs, found =>
    let (ws, rest) := readWidths cs
    widths fuel rest (ws :: found)
  | fuel + 1, _ :: cs, found => widths fuel cs found

-- Digits as a number, unless there are too many of them.
def readDigits (ds : List Nat) : Except Trouble Nat :=
  if Number.maxDecimalDigits < ds.length then .error (.failure (.tooManyDigitsRead ds.length))
  else .ok (ds.foldl (fun n d => 10 * n + d) 0)

def Width.isStar : Width → Bool
  | .star => true
  | .digits _ => false

def addWidth (l : Limits) (size : Nat) : Width → Except Trouble Nat
  | .star => .ok size
  | .digits ds => do
    let n ← readDigits ds
    if l.maxSequenceLength < n then throw (.oversize .width)
    return size + n

def addWidths (l : Limits) (size : Nat) (ws : List Width) : Except Trouble Nat :=
  if ws.any Width.isStar then .error (.oversize .starWidth) else ws.foldlM (addWidth l) size

-- The template, its widths and the texts of its values together bound the result.
def template (h : Heap) (l : Limits) (cs : List Char) (args : Value) : Except Trouble Unit := do
  let size ← (widths (cs.length + 1) cs []).foldlM (addWidths l) cs.length
  let values := match args with
    | .dict i => (h.dictAt i).shown .values
    | .tuple _ items => items
    | v => [v]
  let total ← values.foldlM (fun n v => return n + (← textSize h l v)) size
  checkSize l .formatted total

def binary (h : Heap) (l : Limits) (op : Script.Operator) (a b : Value) : Except Trouble Unit :=
  match op with
  | .pow => power l a b
  | .mul => product h l a b
  | .mod =>
    match a with
    | .str s => template h l s.toList b
    | _ => .ok ()
  | .add => join h l a b
  | _ => .ok ()

-- The runs of digits of a format specification.
def numbersIn : Nat → List Char → List (List Nat)
  | 0, _ => []
  | fuel + 1, cs =>
    match cs.dropWhile (!Text.isDecimal ·) with
    | [] => []
    | cs => (cs.takeWhile Text.isDecimal).filterMap Text.decimalValue? ::
        numbersIn fuel (cs.dropWhile Text.isDecimal)

def formatSpec (l : Limits) (spec : String) : Except Trouble Unit := do
  for ds in numbersIn spec.length spec.toList do
    if l.maxSequenceLength < (← readDigits ds) then throw (.oversize .width)

def textLength? : Value → Option Nat
  | .str s => some s.length
  | _ => none

-- Only the texts among the parts count.
def joined (l : Limits) (mark : Nat) (parts : List Value) : Except Trouble Unit :=
  let size : Nat := (parts.filterMap textLength?).foldl (· + ·) 0
  let marks : Nat := mark * (parts.length - 1)
  checkSize l .joined (size + marks : Nat)

end ScriptArena.Guard
