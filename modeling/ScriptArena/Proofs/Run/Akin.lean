import ScriptArena.Run.ListMethod

namespace ScriptArena

-- The heaps differ in nothing but scopes, and no function can tell them apart.
structure Heap.Akin (h h' : Heap) : Prop where
  lists : h'.lists = h.lists
  dicts : h'.dicts = h.dicts
  closures : h'.closures = h.closures
  marks : h'.marks = h.marks
  seen : ∀ i, Value.visible h' (h.closureAt i).scope = Value.visible h (h.closureAt i).scope

-- What akin heaps answer alike.
class Oblivious {α : Type} (f : Heap → α) : Prop where
  same : ∀ {h h' : Heap}, h.Akin h' → f h' = f h

-- What akin heaps answer alike, however many steps there are.
class Impartial {α : Type} (g : Limits → Heap → Except Trouble α) : Prop where
  same : ∀ {h h' : Heap} (l : Limits) (most : Int), h.Akin h' → g { l with maxSteps := most } h' = g l h

variable {h h' : Heap}

namespace Heap.Akin

theorem listAt (akin : h.Akin h') (i : Nat) : h'.listAt i = h.listAt i := by
  rw [Heap.listAt, akin.lists, Heap.listAt]

theorem dictAt (akin : h.Akin h') (i : Nat) : h'.dictAt i = h.dictAt i := by
  rw [Heap.dictAt, akin.dicts, Heap.dictAt]

theorem closureAt (akin : h.Akin h') (i : Nat) : h'.closureAt i = h.closureAt i := by
  rw [Heap.closureAt, akin.closures, Heap.closureAt]

end Heap.Akin

namespace Value

theorem setItems_akin (akin : h.Akin h') (v : Value) : setItems? h' v = setItems? h v := by
  unfold setItems?
  simp only [akin.dictAt]

theorem memberOfSet_akin (akin : h.Akin h') : memberOfSet h' = memberOfSet h := by
  funext item container x
  unfold memberOfSet
  simp only [akin.dictAt]

theorem equalSets_akin (akin : h.Akin h') : equalSets h' = equalSets h := by
  funext item a b
  unfold equalSets
  simp only [setItems_akin akin, memberOfSet_akin akin]

theorem equal_akin (akin : h.Akin h') (room : Nat) : equal h' room = equal h room := by
  induction room with
  | zero => rfl
  | succ room ih =>
    funext a b
    unfold equal
    simp only [ih, akin.listAt, akin.dictAt, akin.closureAt, equalSets_akin akin, equalClosures,
      akin.seen]

theorem sameOrEqual_akin (akin : h.Akin h') : sameOrEqual h' = sameOrEqual h := by
  funext room a b
  rw [sameOrEqual, equal_akin akin, sameOrEqual]

theorem firstDifference_akin (akin : h.Akin h') (room : Nat) (xs ys : List Value) :
    firstDifference h' room xs ys = firstDifference h room xs ys := by
  induction xs generalizing ys with
  | nil => cases ys <;> rfl
  | cons x xs ih =>
    cases ys with
    | nil => rfl
    | cons y ys => simp only [firstDifference, sameOrEqual_akin akin, ih]

theorem orderSets_akin (akin : h.Akin h') (item : Value → Value → Except Trouble Bool) (op : OrderOp)
    (a b : Value) : orderSets? h' item op a b = orderSets? h item op a b := by
  unfold orderSets?
  simp only [setItems_akin akin, memberOfSet_akin akin]

theorem ordered_akin (akin : h.Akin h') (op : OrderOp) (room : Nat) : ordered h' op room = ordered h op room := by
  induction room with
  | zero => rfl
  | succ room ih =>
    funext a b
    unfold ordered
    simp only [ih, akin.listAt, firstDifference_akin akin, sameOrEqual_akin akin, orderSets_akin akin]

theorem contains_akin (akin : h.Akin h') (container item : Value) :
    contains h' container item = contains h container item := by
  unfold contains
  simp only [akin.listAt, akin.dictAt, sameOrEqual_akin akin, memberOfSet_akin akin]

theorem compareBy_akin (akin : h.Akin h') (op : Script.Comparator) (a b : Value) :
    compareBy h' op a b = compareBy h op a b := by
  unfold compareBy
  simp only [equal_akin akin, ordered_akin akin, contains_akin akin]

theorem length_akin (akin : h.Akin h') (v : Value) : v.length? h' = v.length? h := by
  unfold length?
  simp only [akin.listAt, akin.dictAt]

theorem isTrue_akin (akin : h.Akin h') (v : Value) : v.isTrue h' = v.isTrue h := by
  unfold isTrue
  simp only [length_akin akin]

theorem items_akin (akin : h.Akin h') (v : Value) : v.items? h' = v.items? h := by
  unfold items?
  simp only [akin.listAt, akin.dictAt]

theorem quotedIn_akin (akin : h.Akin h') (room : Nat) : quotedIn h' room = quotedIn h room := by
  induction room with
  | zero => rfl
  | succ room ih =>
    funext opened v
    unfold quotedIn
    simp only [ih, akin.listAt, akin.dictAt, akin.closureAt]

theorem quoted_akin (akin : h.Akin h') (v : Value) : v.quoted h' = v.quoted h := by
  rw [quoted, quotedIn_akin akin, quoted]

theorem text_akin (akin : h.Akin h') (v : Value) : v.text h' = v.text h := by
  unfold text
  simp only [quoted_akin akin]

theorem asciiQuoted_akin (akin : h.Akin h') (v : Value) : v.asciiQuoted h' = v.asciiQuoted h := by
  rw [asciiQuoted, quoted_akin akin, asciiQuoted]

theorem missingKey_akin (akin : h.Akin h') (k : Value) : missingKey h' k = missingKey h k := by
  rw [missingKey, quoted_akin akin, missingKey]

theorem formatted_akin (akin : h.Akin h') (v : Value) (spec : String) :
    v.formatted h' spec = v.formatted h spec := by
  unfold formatted
  simp only [text_akin akin]

theorem getItem_akin (akin : h.Akin h') (container : Value) (key : Subscript) :
    getItem h' container key = getItem h container key := by
  unfold getItem
  simp only [akin.listAt, akin.dictAt, missingKey_akin akin]

theorem spliced_akin (akin : h.Akin h') (items : Array Value) (lower upper step v : Value) :
    spliced h' items lower upper step v = spliced h items lower upper step v := by
  simp only [spliced, replacement, items_akin akin]

theorem assignment_akin (akin : h.Akin h') (container : Value) (key : Subscript) (v : Value) :
    assignment h' container key v = assignment h container key v := by
  unfold assignment
  simp only [akin.listAt, spliced_akin akin]

theorem concat_akin (akin : h.Akin h') (a b : Value) : concat h' a b = concat h a b := by
  unfold concat
  simp only [akin.listAt]

theorem repeatedBy_akin (akin : h.Akin h') (a b : Value) : repeatedBy h' a b = repeatedBy h a b := by
  unfold repeatedBy repeated
  simp only [akin.listAt]

theorem difference_akin (akin : h.Akin h') (a b : Value) : difference h' a b = difference h a b := by
  unfold difference
  simp only [items_akin akin]

end Value

namespace Template

theorem readDirective_akin (akin : h.Akin h') (medium : Medium) (s : Supply) (cs : List Char) :
    readDirective h' medium s cs = readDirective h medium s cs := by
  unfold readDirective readSource lookUp
  simp only [Value.getItem_akin akin]

theorem showValue_akin (akin : h.Akin h') (medium : Medium) (d : Directive) (index : Nat) (v : Value) :
    showValue h' medium d index v = showValue h medium d index v := by
  unfold showValue
  simp only [Value.text_akin akin, Value.quoted_akin akin, Value.asciiQuoted_akin akin]

theorem fill_akin (akin : h.Akin h') (medium : Medium) (size fuel : Nat) (cs : List Char) (s : Supply)
    (done : List (List Char)) : fill h' medium size fuel cs s done = fill h medium size fuel cs s done := by
  fun_induction fill h medium size fuel cs s done with
  | _ => simp_all [fill, readDirective_akin akin, showValue_akin akin]

theorem render_akin (akin : h.Akin h') (medium : Medium) (cs : List Char) (args : Value) :
    render h' medium cs args = render h medium cs args := by
  rw [render, fill_akin akin, render]

end Template

namespace Value

theorem modulo_akin (akin : h.Akin h') (a b : Value) : modulo h' a b = modulo h a b := by
  unfold modulo formatText formatBytes
  simp only [Template.render_akin akin]

theorem binary_akin (akin : h.Akin h') (op : Script.Operator) (a b : Value) :
    binary h' op a b = binary h op a b := by
  unfold binary
  simp only [concat_akin akin, difference_akin akin, repeatedBy_akin akin, modulo_akin akin]

end Value

namespace Cursor

theorem ofValue_akin (akin : h.Akin h') (v : Value) : ofValue h' v = ofValue h v := by
  unfold ofValue ofValue?
  simp only [akin.dictAt]

theorem next_akin (akin : h.Akin h') (c : Cursor) : c.next h' = c.next h := by
  unfold next
  simp only [akin.listAt, akin.dictAt]

end Cursor

namespace ListMethod

theorem place_akin (akin : h.Akin h') (v : Value) (items : List Value) (pos : Nat) :
    place? h' v items pos = place? h v items pos := by
  induction items generalizing pos with
  | nil => rfl
  | cons x rest ih => simp only [place?, Value.sameOrEqual_akin akin, ih]

theorem countOf_akin (akin : h.Akin h') (v : Value) (items : Array Value) :
    countOf h' v items = countOf h v items := by
  simp only [countOf, Value.sameOrEqual_akin akin]

end ListMethod

namespace Guard

theorem ownSize_akin (akin : h.Akin h') (v : Value) : ownSize h' v = ownSize h v := by
  unfold ownSize
  simp only [akin.listAt, akin.dictAt]

theorem parts_akin (akin : h.Akin h') (v : Value) : parts h' v = parts h v := by
  unfold parts
  simp only [akin.listAt, akin.dictAt]

theorem sizeFrom_akin (akin : h.Akin h') (limit : Int) (fuel : Nat) (pending : List Value) (size : Nat) :
    sizeFrom h' limit fuel pending size = sizeFrom h limit fuel pending size := by
  induction fuel generalizing pending size with
  | zero => rfl
  | succ fuel ih =>
    cases pending with
    | nil => rfl
    | cons v pending => simp only [sizeFrom, ownSize_akin akin, parts_akin akin, ih]

theorem textSize_akin (akin : h.Akin h') (l : Limits) (most : Int) (v : Value) :
    textSize h' { l with maxSteps := most } v = textSize h l v :=
  sizeFrom_akin akin _ _ _ _

theorem text_akin (akin : h.Akin h') (l : Limits) (most : Int) (v : Value) :
    text h' { l with maxSteps := most } v = text h l v := by
  unfold text
  simp only [textSize_akin akin, Value.text_akin akin]

theorem sequenceLength_akin (akin : h.Akin h') (v : Value) : sequenceLength? h' v = sequenceLength? h v := by
  unfold sequenceLength?
  simp only [akin.listAt]

theorem template_akin (akin : h.Akin h') (l : Limits) (most : Int) (cs : List Char) (args : Value) :
    template h' { l with maxSteps := most } cs args = template h l cs args := by
  unfold template
  simp only [akin.dictAt, textSize_akin akin]
  rfl

theorem product_akin (akin : h.Akin h') (l : Limits) (most : Int) (a b : Value) :
    product h' { l with maxSteps := most } a b = product h l a b := by
  unfold product
  simp only [sequenceLength_akin akin]
  rfl

theorem join_akin (akin : h.Akin h') (l : Limits) (most : Int) (a b : Value) :
    join h' { l with maxSteps := most } a b = join h l a b := by
  unfold join
  simp only [sequenceLength_akin akin, Value.length_akin akin]
  rfl

theorem binary_akin (akin : h.Akin h') (l : Limits) (most : Int) (op : Script.Operator) (a b : Value) :
    binary h' { l with maxSteps := most } op a b = binary h l op a b := by
  unfold binary
  simp only [template_akin akin, product_akin akin, join_akin akin]
  rfl

end Guard

section
variable (i : Nat) (v w : Value) (op : Script.Operator)

instance : Oblivious (·.lists.size) := ⟨fun akin => by rw [akin.lists]⟩

instance : Oblivious (·.listAt i) := ⟨fun akin => akin.listAt i⟩

instance (n : Nat) (default : Value) : Oblivious fun h => (h.listAt i)[n]?.getD default :=
  ⟨fun akin => by rw [akin.listAt]⟩

instance : Oblivious (·.dictAt i) := ⟨fun akin => akin.dictAt i⟩

instance : Oblivious fun h => (h.dictAt i).toList := ⟨fun akin => by rw [akin.dictAt]⟩

instance (k : Key) : Oblivious fun h => (h.dictAt i).find? k := ⟨fun akin => by rw [akin.dictAt]⟩

instance : Oblivious (·.closureAt i) := ⟨fun akin => akin.closureAt i⟩

instance : Oblivious (v.length? ·) := ⟨fun akin => Value.length_akin akin v⟩

instance : Oblivious (v.isTrue ·) := ⟨fun akin => Value.isTrue_akin akin v⟩

instance : Oblivious (v.items? ·) := ⟨fun akin => Value.items_akin akin v⟩

instance : Oblivious (v.text ·) := ⟨fun akin => Value.text_akin akin v⟩

instance : Oblivious (v.quoted ·) := ⟨fun akin => Value.quoted_akin akin v⟩

instance : Oblivious (v.asciiQuoted ·) := ⟨fun akin => Value.asciiQuoted_akin akin v⟩

instance (spec : String) : Oblivious (v.formatted · spec) := ⟨fun akin => Value.formatted_akin akin v spec⟩

instance : Oblivious (Value.missingKey · v) := ⟨fun akin => Value.missingKey_akin akin v⟩

instance (key : Subscript) : Oblivious (v.getItem · key) := ⟨fun akin => Value.getItem_akin akin v key⟩

instance (key : Subscript) : Oblivious (Value.assignment · v key w) :=
  ⟨fun akin => Value.assignment_akin akin v key w⟩

instance : Oblivious (Value.concat · v w) := ⟨fun akin => Value.concat_akin akin v w⟩

instance : Oblivious (Value.binary · op v w) := ⟨fun akin => Value.binary_akin akin op v w⟩

instance (op : OrderOp) (room : Nat) : Oblivious (Value.ordered · op room v w) :=
  ⟨fun akin => by rw [Value.ordered_akin akin]⟩

instance (op : Script.Comparator) : Oblivious (Value.compareBy · op v w) :=
  ⟨fun akin => Value.compareBy_akin akin op v w⟩

instance : Oblivious (Cursor.ofValue · v) := ⟨fun akin => Cursor.ofValue_akin akin v⟩

instance (c : Cursor) : Oblivious (c.next ·) := ⟨fun akin => Cursor.next_akin akin c⟩

instance instObliviousStretch (start stop : Option Int) : Oblivious fun h =>
    let items := h.listAt i
    let (start, stop) := stretch items.size start stop
    ListMethod.place? h v (items.extract start.toNat stop.toNat).toList start.toNat :=
  ⟨fun akin => by simp only [akin.listAt, ListMethod.place_akin akin]⟩

instance : Oblivious fun h => ListMethod.place? h v (h.listAt i).toList 0 :=
  ⟨fun akin => by rw [akin.listAt, ListMethod.place_akin akin]⟩

instance : Oblivious fun h => ListMethod.countOf h v (h.listAt i) :=
  ⟨fun akin => by rw [akin.listAt, ListMethod.countOf_akin akin]⟩

instance instObliviousSorted (falling : Bool) (keyed : List (Value × Value)) :
    @Oblivious (List Value × Option Trouble) fun h =>
      let less (x y : Value × Value) := Value.ordered h .lt maxValueDepth x.1 y.1
      let (sorted, e) := Sorting.sortBy less falling keyed
      (sorted.map (·.2), e) :=
  ⟨fun akin => by simp only [Value.ordered_akin akin]⟩

instance (what : Oversize) (size : Int) : Impartial fun l _ => Guard.checkSize l what size :=
  ⟨fun _ _ _ => rfl⟩

instance (what : Oversize) : Impartial fun l h => Guard.checkSize l what (h.listAt i).size :=
  ⟨fun _ _ akin => by rw [akin.listAt]; rfl⟩

instance (mark : Nat) (parts : List Value) : Impartial fun l _ => Guard.joined l mark parts :=
  ⟨fun _ _ _ => rfl⟩

instance (items : List Value) : Impartial fun l h => .ok (l.order.arrange h.marks items) :=
  ⟨fun _ _ akin => by rw [akin.marks]⟩

instance (spec : String) : Impartial fun l _ => Guard.formatSpec l spec := ⟨fun _ _ _ => rfl⟩

instance : Impartial fun l h => Guard.text h l v := ⟨fun l most akin => Guard.text_akin akin l most v⟩

instance : Impartial fun l h => Guard.textSize h l v :=
  ⟨fun l most akin => Guard.textSize_akin akin l most v⟩

instance : Impartial fun l h => Guard.binary h l op v w :=
  ⟨fun l most akin => Guard.binary_akin akin l most op v w⟩

end
end ScriptArena
