import ScriptArena.Proofs.Run.Operations

namespace ScriptArena

-- The length of a text, of bytes, of a list or of a tuple.
def Value.span? (h : Heap) : Value → Option Nat
  | .bytes b => some b.length
  | v => Guard.sequenceLength? h v

def Made.span? (h : Heap) : Made → Option Nat
  | .value v => v.span? h
  | .list items => some items.size
  | .set _ => none

-- Two sequences of one type. A range is none of them, nor is a view.
inductive SameKind : Value → Value → Prop where
  | str {s t : String} : SameKind (.str s) (.str t)
  | list {i j : Nat} : SameKind (.list i) (.list j)
  | tuple {mark mark' : Mark} {xs ys : List Value} : SameKind (.tuple mark xs) (.tuple mark' ys)
  | bytes {s t : List UInt8} : SameKind (.bytes s) (.bytes t)

-- One of two values is to be repeated, the other one tells how often.
def Repeats (a b whole : Value) (count : Int) : Prop :=
  (whole = a ∧ b.int? = some count) ∨ (whole = b ∧ a.int? = some count)

-- How long the sequence is that joining or repeating gives, under a ceiling that lets it pass.
inductive Extends (h : Heap) (l : Limits) : Script.Operator → Value → Value → Nat → Prop where
  | join {a b : Value} {n k : Nat} (alike : SameKind a b)
      (left : Guard.sequenceLength? h a = some n) (right : Guard.sequenceLength? h b = some k)
      (indexed : k < 0x8000000000000000) (room : (n + k : Nat) ≤ l.maxSequenceLength) :
      Extends h l .add a b (n + k)
  | joinBytes {s t : List UInt8} : Extends h l .add (.bytes s) (.bytes t) (s.length + t.length)
  | times {a b whole : Value} {n : Nat} {count : Int} (sides : Repeats a b whole count)
      (length : Guard.sequenceLength? h whole = some n) (fits : fitsIndex count)
      (room : n * count ≤ l.maxSequenceLength) : Extends h l .mul a b (n * count.toNat)
  | timesBytes {a b : Value} {s : List UInt8} {count : Int} (sides : Repeats a b (.bytes s) count)
      (fits : fitsIndex count) : Extends h l .mul a b (s.length * count.toNat)

variable {h : Heap} {l : Limits} {a b v w : Value} {n k : Nat} {count : Int}

namespace Value

theorem span_sequence (length : Guard.sequenceLength? h v = some n) : v.span? h = some n := by
  cases v with
  | bytes => cases length
  | _ => exact length

theorem length_sequence (length : Guard.sequenceLength? h v = some n) : v.length? h = some n := by
  cases v with
  | str | list | tuple => exact length
  | _ => cases length

theorem meet_span (span : a.span? h = some n) : Numbers.meet? a b = Option.none := by
  cases a with
  | str | bytes | list | tuple =>
    cases b with
    | _ => rfl
  | _ => cases span

theorem meet_times (span : w.span? h = some n) (sides : Repeats a b w count) :
    Numbers.meet? a b = Option.none := by
  obtain ⟨rfl, int⟩ | ⟨rfl, int⟩ := sides
  · exact meet_span span
  · cases a with
    | int | bool =>
      cases w with
      | str | bytes | list | tuple => rfl
      | _ => cases span
    | _ => cases int

theorem span_add {ns : Numbers} (summed : ns.add = .ok v) : v.span? h = Option.none := by
  cases ns with
  | _ =>
    cases summed
    rfl

theorem span_mul {ns : Numbers} (multiplied : ns.mul = .ok v) : v.span? h = Option.none := by
  cases ns with
  | _ =>
    cases multiplied
    rfl

-- If something with a length comes of an operation, then it is not the one on numbers.
theorem orElse_span {first : Option (Except Trouble Numbers)} {rule : Numbers → Except Trouble Value}
    {second : Unit → Except Trouble Made} (number : ∀ ns v, rule ns = .ok v → v.span? h = Option.none) :
    (∃ made, orElse first rule second = .ok made ∧ made.span? h = some n) ↔
      first = Option.none ∧ ∃ made, second () = .ok made ∧ made.span? h = some n := by
  cases first with
  | none => exact (and_iff_right rfl).symm
  | some ns =>
    refine iff_of_false ?_ nofun
    rintro ⟨made, built, span⟩
    obtain ⟨ns', _, built⟩ := bind_eq_ok.mp built
    obtain ⟨v, ruled, built⟩ := bind_eq_ok.mp built
    cases built
    cases (number ns' v ruled).symm.trans span

-- A tuple that is joined with an empty one, or repeated once, stays the tuple that it is.
theorem joinedTuples_span {mark mark' : Mark} {xs ys : List Value} :
    span? h (if xs.isEmpty then .tuple mark' ys else if ys.isEmpty then .tuple mark xs
      else .tuple Option.none (xs ++ ys)) = some (xs.length + ys.length) := by
  cases xs with
  | nil => simp [span?, Guard.sequenceLength?]
  | cons x xs =>
    cases ys with
    | nil => simp [span?, Guard.sequenceLength?]
    | cons y ys => exact congrArg some List.length_append

theorem concat_span :
    (∃ made, concat h a b = .ok made ∧ made.span? h = some n) ↔
      SameKind a b ∧ ∃ x y, a.span? h = some x ∧ b.span? h = some y ∧ n = x + y := by
  constructor
  · rintro ⟨made, joined, span⟩
    unfold concat at joined
    split at joined
    · cases joined
      exact ⟨.str, _, _, rfl, rfl, by simpa [Made.span?, span?, Guard.sequenceLength?] using span.symm⟩
    · cases joined
      exact ⟨.list, _, _, rfl, rfl, by simpa [Made.span?] using span.symm⟩
    · cases joined
      exact ⟨.tuple, _, _, rfl, rfl, Option.some.inj (span.symm.trans joinedTuples_span)⟩
    · cases joined
      exact ⟨.bytes, _, _, rfl, rfl, by simpa [Made.span?, span?] using span.symm⟩
    all_goals cases joined
  · rintro ⟨alike, x, y, left, right, rfl⟩
    cases alike with
    | str | list | bytes =>
      cases left
      cases right
      exact ⟨_, rfl, by simp [Made.span?, span?, Guard.sequenceLength?]⟩
    | tuple =>
      cases left
      cases right
      exact ⟨_, rfl, joinedTuples_span⟩

theorem times_length {α : Type} (n : Nat) (xs : List α) : (times n xs).length = xs.length * n := by
  unfold times
  split
  · rename_i empty
    rw [List.isEmpty_iff.mp empty]
    simp
  · simp [Nat.mul_comm]

theorem repeatedText_length (n : Nat) (s : String) :
    (if s.isEmpty then "" else String.join (List.replicate n s)).length = s.length * n := by
  split
  · rename_i empty
    have nothing : s = "" := by simpa using empty
    simp [nothing]
  · simp [Nat.mul_comm]

theorem repeatedTuple_span {mark : Mark} {items : List Value} (n : Nat) :
    span? h (if n = 1 then .tuple mark items else .tuple Option.none (times n items)) =
      some (items.length * n) := by
  split
  · rename_i once
    rw [once, Nat.mul_one]
    rfl
  · exact congrArg some (times_length n items)

-- Every sequence is repeated if the number of times is an index.
theorem repeated_made (span : w.span? h = some k) (fits : fitsIndex count) :
    ∃ made, repeated h w count = .ok made ∧ made.span? h = some (k * count.toNat) := by
  unfold repeated
  rw [fits, Bool.not_true, if_neg Bool.false_ne_true]
  cases w with
  | str s =>
    cases span
    exact ⟨_, rfl, congrArg some (repeatedText_length count.toNat s)⟩
  | list i =>
    cases span
    exact ⟨_, rfl, congrArg some (times_length count.toNat (h.listAt i).toList)⟩
  | tuple mark items =>
    cases span
    exact ⟨_, rfl, repeatedTuple_span count.toNat⟩
  | bytes s =>
    cases span
    exact ⟨_, rfl, congrArg some (times_length count.toNat s)⟩
  | _ => cases span

theorem repeated_span :
    (∃ made, repeated h w count = .ok made ∧ made.span? h = some n) ↔
      fitsIndex count ∧ ∃ k, w.span? h = some k ∧ n = k * count.toNat := by
  constructor
  · rintro ⟨made, built, span⟩
    cases fits : fitsIndex count with
    | false =>
      rw [repeated, fits] at built
      cases built
    | true =>
      cases whole : w.span? h with
      | some k =>
        obtain ⟨made', built', span'⟩ := repeated_made whole fits
        cases built.symm.trans built'
        exact ⟨rfl, k, rfl, Option.some.inj (span.symm.trans span')⟩
      | none =>
        rw [repeated, fits] at built
        cases w with
        | str | list | tuple | bytes => cases whole
        | _ => cases built
  · rintro ⟨fits, k, whole, rfl⟩
    exact repeated_made whole fits

theorem isRepeatable_span : w.isRepeatable ↔ ∃ k, w.span? h = some k := by
  cases w with
  | str | list | tuple | bytes => exact iff_of_true rfl ⟨_, rfl⟩
  | _ => exact iff_of_false nofun nofun

theorem repeatedBy_span :
    (∃ made, repeatedBy h a b = .ok made ∧ made.span? h = some n) ↔
      ∃ whole count k, Repeats a b whole count ∧ fitsIndex count ∧ whole.span? h = some k ∧
        n = k * count.toNat := by
  constructor
  · rintro ⟨made, built, span⟩
    unfold repeatedBy at built
    dsimp only at built
    split at built
    · split at built
      · rename_i count int
        obtain ⟨fits, k, whole, long⟩ := repeated_span.mp ⟨made, built, span⟩
        exact ⟨a, count, k, .inl ⟨rfl, int⟩, fits, whole, long⟩
      · cases built
    · split at built
      · split at built
        · rename_i count int
          obtain ⟨fits, k, whole, long⟩ := repeated_span.mp ⟨made, built, span⟩
          exact ⟨b, count, k, .inr ⟨rfl, int⟩, fits, whole, long⟩
        · cases built
      · cases built
  · rintro ⟨whole, count, k, sides, fits, span, rfl⟩
    obtain ⟨made, built, made_span⟩ := repeated_made span fits
    refine ⟨made, ?_, made_span⟩
    rw [← built]
    unfold repeatedBy
    dsimp only
    obtain ⟨rfl, int⟩ | ⟨rfl, int⟩ := sides
    · rw [if_pos (isRepeatable_span.mpr ⟨k, span⟩), int]
    · have number : ¬ a.isRepeatable := by
        cases a with
        | int | bool => nofun
        | _ => cases int
      rw [if_neg number, if_pos (isRepeatable_span.mpr ⟨k, span⟩), int]

end Value

namespace Guard

theorem checkSize_ok {what : Oversize} {size : Int} :
    checkSize l what size = .ok () ↔ size ≤ l.maxSequenceLength := by
  unfold checkSize
  split
  · rename_i large
    exact ⟨nofun, fun room => absurd large (Int.not_lt.mpr room)⟩
  · rename_i within
    exact iff_of_true rfl (Int.not_lt.mp within)

theorem join_sequences (left : sequenceLength? h a = some n) (right : sequenceLength? h b = some k) :
    join h l a b = .ok () ↔ k < 0x8000000000000000 ∧ (n + k : Nat) ≤ l.maxSequenceLength := by
  unfold join
  rw [left, Value.length_sequence right]
  dsimp only
  split
  · rename_i far
    exact ⟨nofun, fun within => absurd within.1 (Nat.not_lt.mpr far)⟩
  · rename_i near
    rw [checkSize_ok]
    exact (and_iff_right (Nat.not_le.mp near)).symm

theorem product_repeats (sides : Repeats a b w count) (length : sequenceLength? h w = some n) :
    product h l a b = .ok () ↔ n * count ≤ l.maxSequenceLength := by
  unfold product
  obtain ⟨rfl, int⟩ | ⟨rfl, int⟩ := sides
  · rw [length, int]
    exact checkSize_ok
  · have number : sequenceLength? h a = none := by
      cases a with
      | int | bool => rfl
      | _ => cases int
    rw [length, int, number]
    exact checkSize_ok

-- Bytes have no length that the guard knows of.
theorem product_bytes {s : List UInt8} (sides : Repeats a b (.bytes s) count) :
    product h l a b = .ok () := by
  obtain ⟨rfl, int⟩ | ⟨rfl, int⟩ := sides
  · cases b with
    | int | bool => rfl
    | _ => cases int
  · cases a with
    | int | bool => rfl
    | _ => cases int

end Guard

namespace Run

variable {m m' : Machine} {op : Script.Operator}

-- An object is as long with a number as it is without.
theorem own_span (h : Heap) (v : Value) : (h.own v).1.span? (h.own v).2 = v.span? h := by
  unfold Heap.own
  split
  · cases v with
    | _ => rfl
  · rfl

theorem keep_span (made : Made) :
    ∃ v m', keep made l m = .ok v m' ∧ v.span? m'.heap = made.span? m.heap := by
  cases made with
  | value v => exact ⟨_, _, rfl, own_span m.heap v⟩
  | set items =>
    refine ⟨_, _, rfl, ?_⟩
    exact own_span _ _
  | list items =>
    refine ⟨_, _, rfl, ?_⟩
    exact congrArg (some ·.size) (m.heap.listAt_newList items)

theorem operate_span :
    (∃ v m', operate op a b l m = .ok v m' ∧ v.span? m'.heap = some n) ↔
      Guard.binary m.heap l op a b = .ok () ∧
        ∃ made, Value.binary m.heap op a b = .ok made ∧ made.span? m.heap = some n := by
  simp only [operate_iff]
  constructor
  · rintro ⟨v, m', ⟨passed, made, built, kept⟩, span⟩
    obtain ⟨v', m'', kept', same⟩ := keep_span made
    cases kept.symm.trans kept'
    exact ⟨passed, made, built, same.symm.trans span⟩
  · rintro ⟨passed, made, built, span⟩
    obtain ⟨v, m', kept, same⟩ := keep_span made
    exact ⟨v, m', ⟨passed, made, built, kept⟩, same.trans span⟩

-- A sum is a sequence if its parts are of one type and are let pass.
theorem join_extends :
    (∃ v m', operate .add a b l m = .ok v m' ∧ v.span? m'.heap = some n) ↔
      Extends m.heap l .add a b n := by
  rw [operate_span]
  dsimp only [Guard.binary, Value.binary]
  rw [Value.orElse_span fun _ _ => Value.span_add, Value.concat_span]
  constructor
  · rintro ⟨passed, _, alike, x, y, left, right, rfl⟩
    cases alike with
    | str | list | tuple =>
      cases left
      cases right
      obtain ⟨indexed, room⟩ := (Guard.join_sequences rfl rfl).mp passed
      exact .join (by constructor) rfl rfl indexed room
    | bytes =>
      cases left
      cases right
      exact .joinBytes
  · intro extended
    cases extended with
    | join alike left right indexed room =>
      have span := Value.span_sequence left
      exact ⟨(Guard.join_sequences left right).mpr ⟨indexed, room⟩, Value.meet_span span, alike, _, _,
        span, Value.span_sequence right, rfl⟩
    | joinBytes => exact ⟨rfl, rfl, .bytes, _, _, rfl, rfl, rfl⟩

-- A product is a sequence if one side is, the other one is an integer, and they are let pass.
theorem times_extends :
    (∃ v m', operate .mul a b l m = .ok v m' ∧ v.span? m'.heap = some n) ↔
      Extends m.heap l .mul a b n := by
  rw [operate_span]
  dsimp only [Guard.binary, Value.binary]
  rw [Value.orElse_span fun _ _ => Value.span_mul, Value.repeatedBy_span]
  constructor
  · rintro ⟨passed, _, whole, count, k, sides, fits, span, rfl⟩
    cases whole with
    | str | list | tuple => exact .times sides span fits ((Guard.product_repeats sides span).mp passed)
    | bytes s =>
      cases span
      exact .timesBytes sides fits
    | _ => cases span
  · intro extended
    cases extended with
    | times sides length fits room =>
      have span := Value.span_sequence length
      exact ⟨(Guard.product_repeats sides length).mpr room, Value.meet_times span sides, _, _, _, sides,
        fits, span, rfl⟩
    | timesBytes sides fits =>
      exact ⟨Guard.product_bytes sides, Value.meet_times (h := m.heap) rfl sides, _, _, _, sides, fits,
        rfl, rfl⟩

end Run

namespace Picked

theorem clamp_within (length : Nat) (n : Int) :
    0 ≤ clamp length 1 n ∧ clamp length 1 n ≤ length := by
  unfold clamp
  dsimp only
  repeat' split
  all_goals omega

theorem rangeLength_adjacent (start stop : Int) : rangeLength start stop 1 = (stop - start).toNat := by
  simp [rangeLength]

-- Positions one apart lie in the sequence one after the other.
theorem ofBounds_within (length : Nat) (lower upper : Option Int) :
    (ofBounds length lower upper 1).start.toNat + (ofBounds length lower upper 1).count ≤ length := by
  have start : 0 ≤ (ofBounds length lower upper 1).start ∧
      (ofBounds length lower upper 1).start ≤ length := by
    cases lower with
    | none => exact ⟨Int.le_refl 0, Int.natCast_nonneg length⟩
    | some n => exact clamp_within length n
  have stop : (ofBounds length lower upper 1).stop ≤ length := by
    cases upper with
    | none => exact Int.le_refl _
    | some n => exact (clamp_within length n).2
  have count : (ofBounds length lower upper 1).count =
      ((ofBounds length lower upper 1).stop - (ofBounds length lower upper 1).start).toNat :=
    rangeLength_adjacent _ _
  omega

end Picked

theorem picked_bounds {length : Nat} {lower upper step : Value} {p : Picked}
    (picks : picked length lower upper step = .ok p) :
    ∃ first last, p = Picked.ofBounds length first last p.step := by
  unfold picked at picks
  obtain ⟨stride, _, picks⟩ := bind_eq_ok.mp picks
  dsimp only at picks
  split at picks
  · cases picks
  · obtain ⟨first, _, picks⟩ := bind_eq_ok.mp picks
    obtain ⟨last, _, picks⟩ := bind_eq_ok.mp picks
    cases picks
    exact ⟨first, last, rfl⟩

theorem picked_within {length : Nat} {lower upper step : Value} {p : Picked}
    (picks : picked length lower upper step = .ok p) (adjacent : p.step = 1) :
    p.start.toNat + p.count ≤ length := by
  obtain ⟨first, last, bounds⟩ := picked_bounds picks
  rw [bounds, adjacent]
  exact Picked.ofBounds_within length first last

-- How long a list of a length becomes when so many items are put in the place of a slice. Only
-- items next to each other give way to more items or to fewer of them.
def Splices (length : Nat) (lower upper step : Value) (given n : Nat) : Prop :=
  ∃ p, picked length lower upper step = .ok p ∧ (p.step = 1 ∨ given = p.count) ∧
    n + p.count = length + given

theorem setEach_size {items : Array Value} (places : List (Nat × Value)) :
    (places.foldl (fun items (n, w) => items.set! n w) items).size = items.size := by
  induction places generalizing items with
  | nil => rfl
  | cons place places ih => exact ih.trans (by simp)

theorem replacement_ok {complaint : String} {given : List Value} :
    Value.replacement h complaint v = .ok given ↔ v.items? h = some given := by
  unfold Value.replacement
  cases v.items? h with
  | none => exact ⟨nofun, nofun⟩
  | some items => simp

-- Items next to each other are replaced by as many as there are, others one by one.
theorem spliced_iff {items new : Array Value} {lower upper step : Value} :
    Value.spliced h items lower upper step v = .ok new ↔
      ∃ p given, picked items.size lower upper step = .ok p ∧ v.items? h = some given ∧
        (p.step = 1 ∧ new = items.extract 0 p.start.toNat ++ given.toArray ++
            items.extract (p.start.toNat + p.count) items.size ∨
          p.step ≠ 1 ∧ given.length = p.count ∧
            new = (p.positions.zip given).foldl (fun items (n, w) => items.set! n w) items) := by
  unfold Value.spliced
  constructor
  · intro built
    obtain ⟨p, picks, built⟩ := bind_eq_ok.mp built
    split at built
    · rename_i adjacent
      obtain ⟨given, found, built⟩ := bind_eq_ok.mp built
      cases built
      exact ⟨p, given, picks, replacement_ok.mp found, .inl ⟨adjacent, rfl⟩⟩
    · rename_i apart
      obtain ⟨given, found, built⟩ := bind_eq_ok.mp built
      split at built
      · cases built
      · rename_i many
        cases built
        exact ⟨p, given, picks, replacement_ok.mp found, .inr ⟨apart, Decidable.not_not.mp many, rfl⟩⟩
  · rintro ⟨p, given, picks, listed, ⟨adjacent, rfl⟩ | ⟨apart, many, rfl⟩⟩
    · refine bind_eq_ok.mpr ⟨p, picks, ?_⟩
      rw [if_pos adjacent]
      exact bind_eq_ok.mpr ⟨given, replacement_ok.mpr listed, rfl⟩
    · refine bind_eq_ok.mpr ⟨p, picks, ?_⟩
      rw [if_neg apart]
      refine bind_eq_ok.mpr ⟨given, replacement_ok.mpr listed, ?_⟩
      rw [if_neg (Decidable.not_not.mpr many)]
      rfl

theorem spliced_size {items : Array Value} {lower upper step : Value} :
    (∃ new, Value.spliced h items lower upper step v = .ok new ∧ new.size = n) ↔
      ∃ given, v.items? h = some given ∧ Splices items.size lower upper step given.length n := by
  simp only [spliced_iff]
  constructor
  · rintro ⟨new, ⟨p, given, picks, listed, ⟨adjacent, rfl⟩ | ⟨apart, many, rfl⟩⟩, rfl⟩
    · have within := picked_within picks adjacent
      refine ⟨given, listed, p, picks, .inl adjacent, ?_⟩
      simp only [Array.size_append, Array.size_extract, List.size_toArray]
      omega
    · refine ⟨given, listed, p, picks, .inr many, ?_⟩
      rw [setEach_size, many]
  · rintro ⟨given, listed, p, picks, fitting, size⟩
    by_cases adjacent : p.step = 1
    · have within := picked_within picks adjacent
      refine ⟨_, ⟨p, given, picks, listed, .inl ⟨adjacent, rfl⟩⟩, ?_⟩
      simp only [Array.size_append, Array.size_extract, List.size_toArray]
      omega
    · have many := fitting.resolve_left adjacent
      refine ⟨_, ⟨p, given, picks, listed, .inr ⟨adjacent, many, rfl⟩⟩, ?_⟩
      rw [setEach_size]
      omega

namespace Run

theorem run_setSlice (l : Limits) (m : Machine) (i : Nat) (lower upper step v : Value) :
    Rules.setItem (.list i) (.slice lower upper step) v l m =
      match Value.spliced m.heap (m.heap.listAt i) lower upper step v with
      | .ok new =>
        let (items, heap) := m.heap.ownAll new.toList
        .ok () { m with heap := heap.modifyList i fun _ => items.toArray }
      | .error e => .error e.toFault m := by
  have assigned : Value.assignment m.heap (.list i) (.slice lower upper step) v =
      (do return Change.listItems i (← Value.spliced m.heap (m.heap.listAt i) lower upper step v)) :=
    rfl
  unfold Rules.setItem
  rw [run_bind, run_ask, assigned]
  cases Value.spliced m.heap (m.heap.listAt i) lower upper step v with
  | error e => rfl
  | ok new => rfl

theorem listAt_modifyList {h : Heap} {i : Nat} (known : i < h.lists.size)
    (f : Array Value → Array Value) : (h.modifyList i f).listAt i = f (h.listAt i) := by
  unfold Heap.modifyList Heap.listAt
  rw [Array.getElem?_modify, if_pos rfl, Array.getElem?_eq_getElem known]
  rfl

-- The ceiling has no say in how long a list becomes.
theorem setSlice_size {i : Nat} {lower upper step : Value} {m : Machine} (known : i < m.heap.lists.size) :
    (∃ m', Rules.setItem (.list i) (.slice lower upper step) v l m = .ok () m' ∧
        (m'.heap.listAt i).size = n) ↔
      ∃ given, v.items? m.heap = some given ∧
        Splices (m.heap.listAt i).size lower upper step given.length n := by
  rw [← spliced_size, run_setSlice]
  cases Value.spliced m.heap (m.heap.listAt i) lower upper step v with
  | error e => exact ⟨nofun, nofun⟩
  | ok new =>
    have becomes : (((m.heap.ownAll new.toList).2.modifyList i fun _ =>
        (m.heap.ownAll new.toList).1.toArray).listAt i).size = new.size := by
      obtain ⟨k, same⟩ := m.heap.ownAll_eq new.toList
      have put := listAt_modifyList (h := { m.heap with marks := k }) known
        fun _ => (m.heap.ownAll new.toList).1.toArray
      rw [same, put, List.size_toArray, Heap.ownAll_length, Array.length_toList]
    constructor
    · rintro ⟨m', ran, size⟩
      cases ran
      exact ⟨new, rfl, becomes.symm.trans size⟩
    · rintro ⟨_, built, size⟩
      cases built
      exact ⟨_, rfl, becomes.trans size⟩

-- A value that is within the ceiling, if it is a sequence.
def Roomy (h : Heap) (l : Limits) (v : Value) : Prop :=
  ∀ n, v.span? h = some n → n ≤ l.maxSequenceLength

theorem extends_roomy (left : Roomy h l a) (right : Roomy h l b) {op : Script.Operator}
    (extended : Extends h l op a b n) :
    n ≤ l.maxSequenceLength ∨ ∃ s, a = .bytes s ∨ b = .bytes s := by
  cases extended with
  | join _ _ _ _ room => exact .inl room
  | joinBytes => exact .inr ⟨_, .inl rfl⟩
  | @times _ _ whole n count sides length fits room =>
    have roomy : Roomy h l whole := by
      obtain ⟨rfl, _⟩ | ⟨rfl, _⟩ := sides
      · exact left
      · exact right
    have within := roomy n (Value.span_sequence length)
    rcases Int.le_total 0 count with up | down
    · refine .inl ?_
      rw [Int.natCast_mul, Int.toNat_of_nonneg up]
      exact room
    · rw [Int.toNat_of_nonpos down, Nat.mul_zero]
      exact .inl (by omega)
  | timesBytes sides =>
    obtain ⟨same, _⟩ | ⟨same, _⟩ := sides
    · exact .inr ⟨_, .inl same.symm⟩
    · exact .inr ⟨_, .inr same.symm⟩

-- A list only grows if more is put in than is taken out.
theorem splices_roomy {length given : Nat} {lower upper step : Value}
    (within : length ≤ l.maxSequenceLength) (splices : Splices length lower upper step given n) :
    n ≤ l.maxSequenceLength ∨
      ∃ p, picked length lower upper step = .ok p ∧ p.step = 1 ∧ p.count < given := by
  obtain ⟨p, picks, fitting, size⟩ := splices
  by_cases more : p.count < given
  · exact .inr ⟨p, picks, fitting.resolve_right (Nat.ne_of_gt more), more⟩
  · exact .inl (by omega)

-- How long the sums and the products are that are sequences, and a list of which a slice was
-- replaced. Bytes go beyond the ceiling, and so do lists into which more is put than is taken out;
-- nothing else does.
theorem sequences_sized (l : Limits) :
    (∀ (m : Machine) op a b n, op = .add ∨ op = .mul →
        ((∃ v m', operate op a b l m = .ok v m' ∧ v.span? m'.heap = some n) ↔
          Extends m.heap l op a b n)) ∧
      (∀ h op a b n, Roomy h l a → Roomy h l b → Extends h l op a b n →
        n ≤ l.maxSequenceLength ∨ ∃ s, a = .bytes s ∨ b = .bytes s) ∧
      (∀ (m : Machine) i lower upper step v n, i < m.heap.lists.size →
        ((∃ m', Rules.setItem (.list i) (.slice lower upper step) v l m = .ok () m' ∧
            (m'.heap.listAt i).size = n) ↔
          ∃ given, v.items? m.heap = some given ∧
            Splices (m.heap.listAt i).size lower upper step given.length n)) ∧
      ∀ (length : Nat) lower upper step given n, length ≤ l.maxSequenceLength →
        Splices length lower upper step given n →
        n ≤ l.maxSequenceLength ∨
          ∃ p, picked length lower upper step = .ok p ∧ p.step = 1 ∧ p.count < given := by
  refine ⟨?_, ?_, ?_, ?_⟩
  · intro m op a b n joins
    obtain rfl | rfl := joins
    · exact join_extends
    · exact times_extends
  · intro h op a b n left right extended
    exact extends_roomy left right extended
  · intro m i lower upper step v n known
    exact setSlice_size known
  · intro length lower upper step given n within splices
    exact splices_roomy within splices

def tenItems : Limits := { maxSequenceLength := 10 }

-- A text that is repeated up to the ceiling, and a list whose two items give way to one.
theorem repeatedText_sized :
    (∃ v m', operate .mul (.str "ab") (.int 5) tenItems {} = .ok v m' ∧ v.span? m'.heap = some 10) ∧
      (10 : Nat) ≤ tenItems.maxSequenceLength ∧
      (∃ m', Rules.setItem (.list 0) (.slice (.int 0) .none .none) (.tuple none [.none]) tenItems
          { heap := { Heap.initial with lists := #[#[.none, .none]] } } = .ok () m' ∧
        (m'.heap.listAt 0).size = 1) ∧
      (1 : Nat) ≤ tenItems.maxSequenceLength := by
  obtain ⟨lengths, within, lists, shrunk⟩ := sequences_sized tenItems
  have extended : Extends Heap.initial tenItems .mul (.str "ab") (.int 5) (2 * (5 : Int).toNat) :=
    .times (.inl ⟨rfl, rfl⟩) rfl (by decide) (by decide)
  have splices : Splices 2 (.int 0) .none .none 1 1 := ⟨_, rfl, .inl rfl, rfl⟩
  have roomy : ∀ v, v = .str "ab" ∨ v = .int 5 → Roomy Heap.initial tenItems v := by
    rintro v (rfl | rfl) n span
    · cases span
      decide
    · cases span
  refine ⟨(lengths _ _ _ _ _ (.inr rfl)).mpr extended, ?_, (lists _ _ _ _ _ _ _ ?_).mpr ?_, ?_⟩
  · exact (within _ _ _ _ _ (roomy _ (.inl rfl)) (roomy _ (.inr rfl)) extended).resolve_right nofun
  · decide
  · exact ⟨_, rfl, splices⟩
  · refine (shrunk 2 _ _ _ _ _ (by decide) splices).resolve_right ?_
    rintro ⟨p, picks, _, more⟩
    cases picks
    exact absurd more (by decide)

-- Eleven items are put into an empty list, and a byte is put behind ten.
theorem emptyList_overfilled :
    (∃ m', Rules.setItem (.list 0) (.slice (.int 0) (.int 0) .none) (.range 0 11 1) tenItems
        { heap := { Heap.initial with lists := #[#[]] } } = .ok () m' ∧
      tenItems.maxSequenceLength < (m'.heap.listAt 0).size) ∧
      ∃ b m', operate .add (.bytes [0, 1, 2, 3, 4, 5, 6, 7, 8, 9]) (.bytes [10]) tenItems {} =
          .ok (.bytes b) m' ∧ tenItems.maxSequenceLength < b.length := by
  constructor
  · refine ⟨_, rfl, ?_⟩
    decide
  · refine ⟨_, _, rfl, ?_⟩
    decide

end Run
end ScriptArena
