import Mathlib.Data.List.Nodup
import Mathlib.Data.List.Perm.Subperm
import ScriptArena.Judge.Answer

namespace ScriptArena

namespace Datum

-- Data of truth values, integers, texts and containers. The keys of a mapping are such that can be
-- keys, and no two of them are equal.
inductive Plain : Datum → Prop where
  | none : Plain .none
  | bool (b : Bool) : Plain (.bool b)
  | int (n : Int) : Plain (.int n)
  | str (s : String) : Plain (.str s)
  | list {items : List Datum} (each : ∀ d ∈ items, Plain d) : Plain (.list items)
  | tuple {items : List Datum} (each : ∀ d ∈ items, Plain d) : Plain (.tuple items)
  | dict {entries : List (Datum × Datum)} (keys : ∀ p ∈ entries, Plain p.1)
      (values : ∀ p ∈ entries, Plain p.2) (hashable : ∀ p ∈ entries, p.1.key? ≠ Option.none)
      (distinct : (entries.map (·.1.key?)).Nodup) : Plain (.dict entries)

-- What stands opposite each other when two data are laid side by side: items at one place, what is
-- held under equal keys, and these keys. The flag tells whether it is part of a key.
inductive Opposite : Bool → Datum → Datum → Datum → Datum → Prop where
  | whole (a e : Datum) : Opposite false a e a e
  | item {inKey : Bool} {a e b f x y : Datum} {xs ys : List Datum} {i : Nat}
      (left : a.sequence? = some xs) (right : e.sequence? = some ys) (here : xs[i]? = some x)
      (there : ys[i]? = some y) (inner : Opposite inKey x y b f) : Opposite inKey a e b f
  | value {inKey : Bool} {b f k d k' d' : Datum} {es fs : List (Datum × Datum)}
      (left : (k, d) ∈ es) (right : (k', d') ∈ fs) (same : k.key? = k'.key?)
      (inner : Opposite inKey d d' b f) : Opposite inKey (.dict es) (.dict fs) b f
  | key {inKey : Bool} {b f k d k' d' : Datum} {es fs : List (Datum × Datum)}
      (left : (k, d) ∈ es) (right : (k', d') ∈ fs) (same : k.key? = k'.key?)
      (inner : Opposite inKey k k' b f) : Opposite true (.dict es) (.dict fs) b f

-- One is a truth value, and the other an integer.
def Mixed : Datum → Datum → Prop
  | .bool _, .int _ | .int _, .bool _ => True
  | _, _ => False

-- One truth value is replaced by the integer that is equal to it. The flag tells whether it is part of
-- a key.
inductive Swaps : Bool → Datum → Datum → Prop where
  | here (b : Bool) : Swaps false (.bool b) (.int (if b then 1 else 0))
  | list {inKey : Bool} {d d' : Datum} (before after : List Datum) (inner : Swaps inKey d d') :
      Swaps inKey (.list (before ++ d :: after)) (.list (before ++ d' :: after))
  | tuple {inKey : Bool} {d d' : Datum} (before after : List Datum) (inner : Swaps inKey d d') :
      Swaps inKey (.tuple (before ++ d :: after)) (.tuple (before ++ d' :: after))
  | value {inKey : Bool} {d d' : Datum} (before after : List (Datum × Datum)) (k : Datum)
      (inner : Swaps inKey d d') :
      Swaps inKey (.dict (before ++ (k, d) :: after)) (.dict (before ++ (k, d') :: after))
  | key {inKey : Bool} {k k' : Datum} (before after : List (Datum × Datum)) (d : Datum)
      (inner : Swaps inKey k k') :
      Swaps true (.dict (before ++ (k, d) :: after)) (.dict (before ++ (k', d) :: after))

section
variable {es fs : List (Datum × Datum)}

theorem entry?_mem {key : Option Key} {e : Datum} (found : entry? key fs = some e) :
    ∃ k, (k, e) ∈ fs ∧ k.key? = key := by
  obtain ⟨⟨k, d⟩, held, rfl⟩ := Option.map_eq_some_iff.mp found
  have under := List.find?_some held
  rw [isUnder, Bool.and_eq_true] at under
  exact ⟨k, List.mem_of_find?_eq_some held, eq_of_beq under.2⟩

theorem entry?_iff (hashable : ∀ q ∈ fs, q.1.key? ≠ Option.none)
    (distinct : (fs.map (·.1.key?)).Nodup) {key : Option Key} {e : Datum} :
    entry? key fs = some e ↔ ∃ k, (k, e) ∈ fs ∧ k.key? = key := by
  refine ⟨entry?_mem, ?_⟩
  rintro ⟨k, inside, rfl⟩
  cases found : entry? k.key? fs with
  | none =>
    have absent := List.find?_eq_none.mp (Option.map_eq_none_iff.mp found) _ inside
    have known : k.key?.isSome := Option.isSome_iff_ne_none.mpr (hashable _ inside)
    simp [isUnder, known] at absent
  | some d =>
    obtain ⟨k', inside', same⟩ := entry?_mem found
    have one := List.inj_on_of_nodup_map distinct inside' inside same
    cases one
    rfl

theorem agreesEntries_iff (hashable : ∀ q ∈ fs, q.1.key? ≠ Option.none)
    (distinct : (fs.map (·.1.key?)).Nodup) :
    agreesEntries es fs = true ↔
      ∀ p ∈ es, ∃ q ∈ fs, p.1.key? = q.1.key? ∧ p.2.agrees q.2 = true := by
  induction es with
  | nil => simp [agreesEntries]
  | cons p rest ih =>
    obtain ⟨k, d⟩ := p
    rw [agreesEntries, Bool.and_eq_true, ih, List.forall_mem_cons]
    refine and_congr ?_ Iff.rfl
    constructor
    · intro met
      split at met
      · rename_i e found
        obtain ⟨k', inside, same⟩ := entry?_mem found
        exact ⟨_, inside, same.symm, met⟩
      · cases met
    · rintro ⟨⟨k', e⟩, inside, same, met⟩
      rw [(entry?_iff hashable distinct).mpr ⟨k', inside, same.symm⟩]
      exact met

theorem agrees_dict (hashable : ∀ q ∈ fs, q.1.key? ≠ Option.none)
    (distinct : (fs.map (·.1.key?)).Nodup) :
    agrees (.dict es) (.dict fs) = true ↔ es.length = fs.length ∧
      ∀ p ∈ es, ∃ q ∈ fs, p.1.key? = q.1.key? ∧ p.2.agrees q.2 = true := by
  rw [agrees, Bool.and_eq_true, beq_iff_eq, agreesEntries_iff hashable distinct]

end

section
variable {a e : Datum} {xs ys : List Datum}

theorem agreesAll_iff :
    agreesAll xs ys = true ↔ xs.length = ys.length ∧
      ∀ (i : Nat) x y, xs[i]? = some x → ys[i]? = some y → x.agrees y = true := by
  induction xs generalizing ys with
  | nil =>
    cases ys with
    | nil => simp [agreesAll]
    | cons y ys => simp [agreesAll]
  | cons x xs ih =>
    cases ys with
    | nil => simp [agreesAll]
    | cons y ys =>
      rw [agreesAll, Bool.and_eq_true, ih, List.length_cons, List.length_cons, Nat.add_right_cancel_iff]
      constructor
      · rintro ⟨first, same, rest⟩
        refine ⟨same, fun i u v here there => ?_⟩
        cases i with
        | zero =>
          cases here
          cases there
          exact first
        | succ i => exact rest i u v here there
      · rintro ⟨same, each⟩
        exact ⟨each 0 x y rfl rfl, same, fun i => each (i + 1)⟩

theorem agrees_sequence (left : a.sequence? = some xs) (right : e.sequence? = some ys) :
    a.agrees e = agreesAll xs ys := by
  cases a with
  | list | tuple =>
    cases left
    rw [agrees, right]
  | _ => cases left

theorem plain_item (plain : Plain a) (sequence : a.sequence? = some xs) {d : Datum} (inside : d ∈ xs) :
    Plain d := by
  cases plain with
  | list each | tuple each =>
    cases sequence
    exact each d inside
  | _ => cases sequence

theorem agrees_int (m n : Int) : agrees (.int m) (.int n) = true ↔ m = n := by
  change (some (compare m n) == some Ordering.eq) = true ↔ m = n
  rw [beq_iff_eq, Option.some.injEq, Int.compare_eq_eq]

end

theorem unmixed {b f : Datum} (met : b.agrees f = true) : ¬ Mixed b f := by
  intro mixed
  cases b with
  | bool =>
    cases f with
    | int => cases met
    | _ => exact mixed
  | int =>
    cases f with
    | bool => cases met
    | _ => exact mixed
  | _ => exact mixed

-- Outside of keys, what agrees with a datum agrees with it in each part.
theorem opposite_agrees {inKey : Bool} {a e b f : Datum} (opposite : Opposite inKey a e b f)
    (outside : inKey = false) (plain : Plain e) (met : a.agrees e = true) : b.agrees f = true := by
  induction opposite with
  | whole => exact met
  | @item inKey a e b f x y xs ys i left right here there _ ih =>
    rw [agrees_sequence left right, agreesAll_iff] at met
    exact ih outside (plain_item plain right (List.mem_of_getElem? there)) (met.2 i x y here there)
  | @value inKey b f k d k' d' es fs left right same _ ih =>
    cases plain with
    | dict keys values hashable distinct =>
      obtain ⟨q, inside, shared, agree⟩ := ((agrees_dict hashable distinct).mp met).2 _ left
      have one := List.inj_on_of_nodup_map distinct inside right (shared.symm.trans same)
      rw [one] at agree
      exact ih outside (values _ right) agree
  | key => cases outside

theorem keys?_place {xs : List Datum} {ks : List Key} (keys : keys? xs = some ks) {i : Nat} {x : Datum}
    (place : xs[i]? = some x) : ∃ k, ks[i]? = some k ∧ x.key? = some k := by
  induction xs generalizing ks i with
  | nil => cases place
  | cons d rest ih =>
    rw [keys?] at keys
    obtain ⟨k, first, keys⟩ := Option.bind_eq_some_iff.mp keys
    obtain ⟨others, later, made⟩ := Option.bind_eq_some_iff.mp keys
    cases made
    cases i with
    | zero =>
      cases place
      exact ⟨k, rfl, first⟩
    | succ i => exact ih later place

-- Of lists and tuples, a tuple of keys is a key.
theorem sequence_key {a : Datum} {xs : List Datum} {key : Key} (sequence : a.sequence? = some xs)
    (held : a.key? = some key) : ∃ ks, key = .tuple ks ∧ keys? xs = some ks := by
  cases a with
  | tuple =>
    cases sequence
    rw [key?] at held
    obtain ⟨ks, keys, rfl⟩ := Option.map_eq_some_iff.mp held
    exact ⟨ks, rfl, keys⟩
  | list => cases held
  | _ => cases sequence

-- Parts of equal keys that stand opposite each other are equal keys.
theorem opposite_keys {inKey : Bool} {a e b f : Datum} (opposite : Opposite inKey a e b f)
    {key : Key} (left : a.key? = some key) (right : e.key? = some key) : b.key? = f.key? := by
  induction opposite generalizing key with
  | whole => exact left.trans right.symm
  | item first second here there _ ih =>
    obtain ⟨ks, rfl, keys⟩ := sequence_key first left
    obtain ⟨_, same, others⟩ := sequence_key second right
    cases same
    obtain ⟨k, held, x⟩ := keys?_place keys here
    obtain ⟨_, other, y⟩ := keys?_place others there
    cases held.symm.trans other
    exact ih x y
  | value => cases left
  | key => cases left

theorem opposite_hashed {inKey : Bool} {a e b f : Datum} (opposite : Opposite inKey a e b f)
    (inside : inKey = true) (plain : Plain a) : b.key? = f.key? := by
  induction opposite with
  | whole => cases inside
  | item left _ here _ _ ih => exact ih inside (plain_item plain left (List.mem_of_getElem? here))
  | value left _ _ _ ih =>
    cases plain with
    | dict keys values hashable distinct => exact ih inside (values _ left)
  | key left _ same inner _ =>
    cases plain with
    | dict keys values hashable distinct =>
      obtain ⟨key, held⟩ := Option.ne_none_iff_exists'.mp (hashable _ left)
      exact opposite_keys inner held (same.symm.trans held)

-- With as many entries, and a partner for each of them, each of the others has a partner.
theorem partners {es fs : List (Datum × Datum)} (distinct : (es.map (·.1.key?)).Nodup)
    (length : es.length = fs.length) (each : ∀ p ∈ es, ∃ q ∈ fs, p.1.key? = q.1.key?) :
    ∀ q ∈ fs, ∃ p ∈ es, p.1.key? = q.1.key? := by
  have within : es.map (·.1.key?) ⊆ fs.map (·.1.key?) := by
    intro key inside
    obtain ⟨p, here, rfl⟩ := List.mem_map.mp inside
    obtain ⟨q, there, same⟩ := each p here
    exact List.mem_map.mpr ⟨q, there, same.symm⟩
  have all := (List.subperm_of_subset distinct within).perm_of_length_le (by simp [length])
  intro q there
  obtain ⟨p, here, same⟩ := List.mem_map.mp (all.mem_iff.mpr (List.mem_map_of_mem there))
  exact ⟨p, here, same⟩

-- What holds of each entry and its partner holds of each of the others and its partner.
theorem partners_met {q : Datum × Datum → Datum × Datum → Prop} {es fs : List (Datum × Datum)}
    (distinct : (es.map (·.1.key?)).Nodup) (distinct' : (fs.map (·.1.key?)).Nodup)
    (length : es.length = fs.length)
    (each : ∀ x ∈ es, ∃ y ∈ fs, x.1.key? = y.1.key? ∧ q x y) :
    ∀ y ∈ fs, ∃ x ∈ es, x.1.key? = y.1.key? ∧ q x y := by
  intro y there
  obtain ⟨x, here, same⟩ := partners distinct length
    (fun x here => (each x here).imp fun _ found => ⟨found.1, found.2.1⟩) y there
  obtain ⟨y', there', same', met⟩ := each x here
  have one := List.inj_on_of_nodup_map distinct' there' there (same'.symm.trans same)
  exact ⟨x, here, same, one ▸ met⟩

theorem sequences_swapped {a e : Datum} {xs ys : List Datum} (left : a.sequence? = some xs)
    (right : e.sequence? = some ys)
    (each : ∀ d ∈ xs, ∀ e, Plain e → d.agrees e = true → e.agrees d = true) (plain : Plain e)
    (met : a.agrees e = true) : e.agrees a = true := by
  rw [agrees_sequence left right, agreesAll_iff] at met
  rw [agrees_sequence right left, agreesAll_iff]
  refine ⟨met.1.symm, fun i y x there here => ?_⟩
  have inside := plain_item plain right (List.mem_of_getElem? there)
  exact each x (List.mem_of_getElem? here) y inside (met.2 i x y here there)

theorem agrees_swapped {a : Datum} (plain : Plain a) :
    ∀ e, Plain e → a.agrees e = true → e.agrees a = true := by
  induction plain with
  | none =>
    intro e plain met
    cases plain with
    | none => rfl
    | _ => cases met
  | bool b =>
    intro e plain met
    cases plain with
    | bool c =>
      have same : b = c := eq_of_beq met
      rw [same]
      exact beq_self_eq_true c
    | _ => cases met
  | int n =>
    intro e plain met
    cases plain with
    | int m => exact (agrees_int m n).mpr ((agrees_int n m).mp met).symm
    | _ => cases met
  | str s =>
    intro e plain met
    cases plain with
    | str t =>
      have same : s = t := eq_of_beq met
      rw [same]
      exact beq_self_eq_true t
    | _ => cases met
  | list _ ih | tuple _ ih =>
    intro e plain met
    cases plain with
    | list each => exact sequences_swapped rfl rfl ih (.list each) met
    | tuple each => exact sequences_swapped rfl rfl ih (.tuple each) met
    | _ => cases met
  | dict keys values hashable distinct _ ih =>
    intro e plain met
    cases plain with
    | dict keys' values' hashable' distinct' =>
      obtain ⟨length, each⟩ := (agrees_dict hashable' distinct').mp met
      refine (agrees_dict hashable distinct).mpr ⟨length.symm, fun q there => ?_⟩
      obtain ⟨p, here, same, met⟩ := partners_met distinct distinct' length each q there
      exact ⟨p, here, same.symm, ih p here q.2 (values' q there) met⟩
    | _ => cases met

theorem agrees_self {a : Datum} (plain : Plain a) : a.agrees a = true := by
  have each {xs : List Datum} (ih : ∀ d ∈ xs, d.agrees d = true) : agreesAll xs xs = true := by
    refine agreesAll_iff.mpr ⟨rfl, fun i x y here there => ?_⟩
    cases here.symm.trans there
    exact ih x (List.mem_of_getElem? here)
  induction plain with
  | none => rfl
  | bool b => exact beq_self_eq_true b
  | int n => exact (agrees_int n n).mpr rfl
  | str s => exact beq_self_eq_true s
  | list _ ih | tuple _ ih => exact each ih
  | dict _ _ hashable distinct _ ih =>
    exact (agrees_dict hashable distinct).mpr ⟨rfl, fun p inside => ⟨p, inside, rfl, ih p inside⟩⟩

theorem agreesAll_split {before after ys : List Datum} {d : Datum}
    (met : agreesAll (before ++ d :: after) ys = true) :
    ∃ y, d.agrees y = true ∧ ∀ d', agreesAll (before ++ d' :: after) ys = d'.agrees y := by
  induction before generalizing ys with
  | nil =>
    cases ys with
    | nil => cases met
    | cons y ys =>
      rw [List.nil_append, agreesAll, Bool.and_eq_true] at met
      refine ⟨y, met.1, fun d' => ?_⟩
      rw [List.nil_append, agreesAll, met.2, Bool.and_true]
  | cons x before ih =>
    cases ys with
    | nil => cases met
    | cons y ys =>
      rw [List.cons_append, agreesAll, Bool.and_eq_true] at met
      obtain ⟨z, agree, whole⟩ := ih met.2
      refine ⟨z, agree, fun d' => ?_⟩
      rw [List.cons_append, agreesAll, met.1, Bool.true_and]
      exact whole d'

theorem agreesEntries_split {before after fs : List (Datum × Datum)} {k d : Datum}
    (met : agreesEntries (before ++ (k, d) :: after) fs = true) :
    ∃ e, d.agrees e = true ∧ ∀ k' d', k'.key? = k.key? →
      agreesEntries (before ++ (k', d') :: after) fs = d'.agrees e := by
  induction before with
  | nil =>
    rw [List.nil_append, agreesEntries, Bool.and_eq_true] at met
    obtain ⟨here, rest⟩ := met
    cases found : entry? k.key? fs with
    | none =>
      rw [found] at here
      cases here
    | some e =>
      rw [found] at here
      refine ⟨e, here, fun k' d' same => ?_⟩
      rw [List.nil_append, agreesEntries, same, found, rest, Bool.and_true]
  | cons p before ih =>
    obtain ⟨j, c⟩ := p
    rw [List.cons_append, agreesEntries, Bool.and_eq_true] at met
    obtain ⟨e, agree, whole⟩ := ih met.2
    refine ⟨e, agree, fun k' d' same => ?_⟩
    rw [List.cons_append, agreesEntries, met.1, Bool.true_and]
    exact whole k' d' same

theorem keys?_congr {d d' : Datum} (same : d'.key? = d.key?) (before after : List Datum) :
    keys? (before ++ d' :: after) = keys? (before ++ d :: after) := by
  induction before with
  | nil => rw [List.nil_append, List.nil_append, keys?, keys?, same]
  | cons x before ih => rw [List.cons_append, List.cons_append, keys?, keys?, ih]

-- As a key, a truth value is the integer that is equal to it.
theorem swaps_key {inKey : Bool} {a a' : Datum} (swaps : Swaps inKey a a') : a'.key? = a.key? := by
  induction swaps with
  | here b => rfl
  | list => rfl
  | tuple before after _ ih => rw [key?, key?, keys?_congr ih]
  | value => rfl
  | key => rfl

theorem swaps_agrees {inKey : Bool} {a a' : Datum} (swaps : Swaps inKey a a') :
    ∀ e, a.agrees e = true → a'.agrees e = inKey := by
  induction swaps with
  | here b =>
    intro e met
    cases e with
    | bool => rfl
    | _ => cases met
  | list before after _ ih | tuple before after _ ih =>
    intro e met
    rw [agrees] at met ⊢
    cases items : e.sequence? with
    | none =>
      rw [items] at met
      cases met
    | some ys =>
      rw [items] at met
      obtain ⟨y, agree, whole⟩ := agreesAll_split met
      exact (whole _).trans (ih y agree)
  | @value inKey d d' before after k _ ih =>
    intro e met
    cases e with
    | dict fs =>
      rw [agrees, Bool.and_eq_true] at met
      obtain ⟨e, agree, whole⟩ := agreesEntries_split met.2
      have length : ((before ++ (k, d') :: after).length == fs.length) = true := by
        simpa using met.1
      rw [agrees, length, whole k d' rfl, Bool.true_and]
      exact ih e agree
    | _ => cases met
  | @key inKey k k' before after d inner _ =>
    intro e met
    cases e with
    | dict fs =>
      rw [agrees, Bool.and_eq_true] at met
      obtain ⟨e, agree, whole⟩ := agreesEntries_split met.2
      have length : ((before ++ (k', d) :: after).length == fs.length) = true := by
        simpa using met.1
      rw [agrees, length, whole k' d (swaps_key inner), Bool.true_and]
      exact agree
    | _ => cases met

-- What holds of all, with one of them replaced.
theorem all_replaced {α : Type} {q : α → Prop} {before after : List α} {x y : α}
    (each : ∀ z ∈ before ++ x :: after, q z) (new : q y) : ∀ z ∈ before ++ y :: after, q z := by
  simp only [List.mem_append, List.mem_cons] at each ⊢
  rintro z (inside | rfl | inside)
  · exact each z (.inl inside)
  · exact new
  · exact each z (.inr (.inr inside))

theorem swaps_plain {inKey : Bool} {a a' : Datum} (swaps : Swaps inKey a a') (plain : Plain a) :
    Plain a' := by
  induction swaps with
  | here b => exact .int _
  | list before after _ ih =>
    cases plain with
    | list each => exact .list (all_replaced each (ih (each _ List.mem_append_cons_self)))
  | tuple before after _ ih =>
    cases plain with
    | tuple each => exact .tuple (all_replaced each (ih (each _ List.mem_append_cons_self)))
  | @value inKey d d' before after k _ ih =>
    cases plain with
    | dict keys values hashable distinct =>
      have here : (k, d) ∈ before ++ (k, d) :: after := List.mem_append_cons_self
      have key : Plain k := keys _ here
      have known : k.key? ≠ Option.none := hashable _ here
      refine .dict (all_replaced keys key) (all_replaced values (ih (values _ here)))
        (all_replaced hashable known) ?_
      rwa [List.map_append, List.map_cons] at distinct ⊢
  | @key inKey k k' before after d inner ih =>
    cases plain with
    | dict keys values hashable distinct =>
      have here : (k, d) ∈ before ++ (k, d) :: after := List.mem_append_cons_self
      have same : k'.key? = k.key? := swaps_key inner
      have value : Plain d := values _ here
      have known : k'.key? ≠ Option.none := same ▸ hashable _ here
      refine .dict (all_replaced keys (ih (keys _ here))) (all_replaced values value)
        (all_replaced hashable known) ?_
      rw [List.map_append, List.map_cons] at distinct ⊢
      rwa [same]

-- Whichever of the two is expected.
theorem swaps_told {inKey : Bool} {a a' e : Datum} (plain : Plain a) (expected : Plain e)
    (met : a.agrees e = true) (swaps : Swaps inKey a a') :
    a'.agrees e = inKey ∧ e.agrees a' = inKey := by
  have one := swaps_agrees swaps e met
  have plain' := swaps_plain swaps plain
  refine ⟨one, ?_⟩
  cases inKey with
  | true => exact agrees_swapped plain' e expected one
  | false =>
    rw [← Bool.not_eq_true]
    intro other
    cases one.symm.trans (agrees_swapped expected a' plain' other)

end Datum

namespace Value
open Datum

variable {h : Heap}

-- A value in a heap is what a datum says it is. What it holds may be held elsewhere as well.
inductive Denotes (h : Heap) : Value → Datum → Prop where
  | none : Denotes h .none .none
  | bool (b : Bool) : Denotes h (.bool b) (.bool b)
  | int (n : Int) : Denotes h (.int n) (.int n)
  | str (s : String) : Denotes h (.str s) (.str s)
  | list {at_ : Nat} {items : List Datum} (length : (h.listAt at_).toList.length = items.length)
      (each : ∀ (i : Nat) v d, (h.listAt at_).toList[i]? = some v → items[i]? = some d →
        Denotes h v d) : Denotes h (.list at_) (.list items)
  | tuple {mark : Mark} {vs : List Value} {items : List Datum} (length : vs.length = items.length)
      (each : ∀ (i : Nat) v d, vs[i]? = some v → items[i]? = some d → Denotes h v d) :
      Denotes h (.tuple mark vs) (.tuple items)
  | dict {at_ : Nat} {entries : List (Datum × Datum)} (size : (h.dictAt at_).size = entries.length)
      (keys : ∀ key, (h.dictAt at_).find? key ≠ Option.none ↔ ∃ p ∈ entries, p.1.key? = some key)
      (values : ∀ p ∈ entries, ∀ key v, p.1.key? = some key → (h.dictAt at_).find? key = some v →
        Denotes h v p.2) : Denotes h (.dict at_) (.dict entries)

theorem agreesAll_denotes {vs : List Value} {xs ys : List Datum} (length : vs.length = xs.length)
    (each : ∀ (i : Nat) v d, vs[i]? = some v → xs[i]? = some d →
      ∀ y ∈ ys, v.agrees h y = d.agrees y) :
    Value.agreesAll h vs ys = Datum.agreesAll xs ys := by
  induction vs generalizing xs ys with
  | nil =>
    cases xs with
    | nil =>
      cases ys with
      | _ => rfl
    | cons => cases length
  | cons v vs ih =>
    cases xs with
    | nil => cases length
    | cons x xs =>
      cases ys with
      | nil => rfl
      | cons y ys =>
        rw [Value.agreesAll, Datum.agreesAll, each 0 v x rfl rfl y List.mem_cons_self,
          ih (Nat.succ.inj length) fun i v d here there z inside =>
            each (i + 1) v d here there z (List.mem_cons_of_mem _ inside)]

theorem agreesEntries_held {d : Dict} {fs : List (Datum × Datum)} :
    Value.agreesEntries h d fs = true ↔
      ∀ q ∈ fs, ∃ v, q.1.key?.bind d.find? = some v ∧ v.agrees h q.2 = true := by
  induction fs with
  | nil => simp [Value.agreesEntries]
  | cons q rest ih =>
    obtain ⟨k, e⟩ := q
    rw [Value.agreesEntries, Bool.and_eq_true, ih, List.forall_mem_cons]
    refine and_congr ?_ Iff.rfl
    cases k.key?.bind d.find? with
    | none => simp
    | some v => simp

-- A mapping agrees with another when each of its keys is held, and what is held agrees.
theorem agrees_denotes {v : Value} {a : Datum} (denotes : Denotes h v a) (plain : Plain a) :
    ∀ e, Plain e → v.agrees h e = a.agrees e := by
  induction denotes with
  | none | bool | int | str =>
    intro e expected
    cases expected with
    | _ => rfl
  | list length _ ih | tuple length _ ih =>
    intro e expected
    cases expected with
    | list each | tuple each =>
      refine agreesAll_denotes length fun i v d here there y inside => ?_
      exact ih i v d here there (plain_item plain rfl (List.mem_of_getElem? there)) y (each y inside)
    | _ => rfl
  | @dict at_ es size keys values ih =>
    intro e expected
    cases expected with
    | @dict fs _ plains hashable' apart =>
      cases plain with
      | dict _ plain hashable distinct =>
        have inner (p) (here : p ∈ es) (q) (there : q ∈ fs) (v) (same : p.1.key? = q.1.key?)
            (held : q.1.key?.bind (h.dictAt at_).find? = some v) : v.agrees h q.2 = p.2.agrees q.2 := by
          obtain ⟨key, known⟩ := Option.ne_none_iff_exists'.mp (hashable p here)
          rw [← same, known] at held
          exact ih p here key v known held (plain p here) q.2 (plains q there)
        rw [Bool.eq_iff_iff, agrees_dict hashable' apart, Value.agrees, Bool.and_eq_true,
          beq_iff_eq, agreesEntries_held, size]
        refine and_congr_right fun length => ⟨fun each p here => ?_, fun each q there => ?_⟩
        · have held (q) (there : q ∈ fs) : ∃ p ∈ es, q.1.key? = p.1.key? := by
            obtain ⟨v, found, -⟩ := each q there
            obtain ⟨key, known, stored⟩ := Option.bind_eq_some_iff.mp found
            obtain ⟨p, here, same⟩ := (keys key).mp (Option.ne_none_iff_exists'.mpr ⟨v, stored⟩)
            exact ⟨p, here, known.trans same.symm⟩
          obtain ⟨q, there, same⟩ := partners apart length.symm held p here
          obtain ⟨v, found, met⟩ := each q there
          exact ⟨q, there, same.symm, inner p here q there v same.symm found ▸ met⟩
        · obtain ⟨p, here, same, met⟩ := partners_met distinct apart length each q there
          obtain ⟨key, known⟩ := Option.ne_none_iff_exists'.mp (hashable p here)
          obtain ⟨v, stored⟩ := Option.ne_none_iff_exists'.mp ((keys key).mpr ⟨p, here, known⟩)
          have found : q.1.key?.bind (h.dictAt at_).find? = some v := by
            rw [← same, known]
            exact stored
          exact ⟨v, found, (inner p here q there v same found).trans met⟩
    | _ => rfl

end Value

namespace Datum
open Value

-- Outside of the keys of mappings, no truth value stands for a number in an answer that is the expected
-- one, so that it is not if a truth value is replaced by the integer. In keys the two are one.
theorem truths_apart (a e : Datum) (plain : Plain a) (expected : Plain e) :
    a.agrees a = true ∧
      (a.agrees e = true →
        (∀ b f, Opposite false a e b f → b.agrees f = true ∧ ¬ Mixed b f) ∧
        (∀ b f, Opposite true a e b f → b.key? = f.key?) ∧
        ∀ inKey a', Swaps inKey a a' → a'.agrees e = inKey ∧ e.agrees a' = inKey) ∧
      ∀ h v, Denotes h v a → v.agrees h e = a.agrees e := by
  refine ⟨agrees_self plain, fun met => ⟨fun b f opposite => ?_, fun b f opposite => ?_, ?_⟩, ?_⟩
  · have agree := opposite_agrees opposite rfl expected met
    exact ⟨agree, unmixed agree⟩
  · exact opposite_hashed opposite rfl plain
  · exact fun inKey a' swaps => swaps_told plain expected met swaps
  · exact fun h v denotes => agrees_denotes denotes plain e expected

-- A mapping with truth values in a key and in what is held under it.
def marks (inside held : Datum) : Datum := .dict [(.tuple [inside, .str "a"], .list [held])]

theorem marks_plain (b c : Bool) : Plain (marks (.bool b) (.bool c)) := by
  refine .dict ?_ ?_ ?_ (List.nodup_singleton _)
  · rw [List.forall_mem_singleton]
    refine .tuple ?_
    rw [List.forall_mem_cons, List.forall_mem_singleton]
    exact ⟨.bool b, .str "a"⟩
  · rw [List.forall_mem_singleton]
    refine .list ?_
    rw [List.forall_mem_singleton]
    exact .bool c
  · rw [List.forall_mem_singleton]
    exact Option.some_ne_none _

theorem marks_apart :
    ∃ a, Plain a ∧ a.agrees a = true ∧
      Opposite false a a (.bool false) (.bool false) ∧ ¬ Mixed (.bool false) (.bool false) ∧
      (Swaps false a (marks (.bool true) (.int 0)) ∧
        a.agrees (marks (.bool true) (.int 0)) = false) ∧
      (Swaps true a (marks (.int 1) (.bool false)) ∧
        a.agrees (marks (.int 1) (.bool false)) = true) ∧
      Value.agrees .initial (.tuple Option.none [.bool true]) (.list [.bool true]) = true := by
  have plain := marks_plain true false
  have held : Swaps false (marks (.bool true) (.bool false)) (marks (.bool true) (.int 0)) :=
    .value [] [] _ (.list [] [] (.here false))
  have inside : Swaps true (marks (.bool true) (.bool false)) (marks (.int 1) (.bool false)) :=
    .key [] [] _ (.tuple [] _ (.here true))
  have opposite : Opposite false (marks (.bool true) (.bool false)) (marks (.bool true) (.bool false))
      (.bool false) (.bool false) :=
    .value List.mem_cons_self List.mem_cons_self rfl (.item (i := 0) rfl rfl rfl rfl (.whole _ _))
  obtain ⟨same, apart, -⟩ := truths_apart _ _ plain plain
  obtain ⟨matched, -, swapped⟩ := apart same
  have single : ∀ d ∈ [Datum.bool true], Plain d := List.forall_mem_singleton.mpr (.bool true)
  have denotes : Denotes .initial (.tuple Option.none [.bool true]) (.tuple [.bool true]) := by
    refine .tuple rfl fun i v d here there => ?_
    cases i with
    | zero =>
      cases here
      cases there
      exact .bool true
    | succ => cases here
  have value := (truths_apart _ _ (.tuple single) (.list single)).2.2 .initial _ denotes
  exact ⟨_, plain, same, opposite, (matched _ _ opposite).2, ⟨held, (swapped _ _ held).2⟩,
    ⟨inside, (swapped _ _ inside).2⟩, value.trans (by decide)⟩

-- A truth value stands for a number in a key, in an answer that is the expected one.
theorem keys_mixed :
    let a := marks (.bool true) (.bool false)
    let e := marks (.int 1) (.bool false)
    a.agrees e = true ∧ Opposite true a e (.bool true) (.int 1) ∧ Mixed (.bool true) (.int 1) ∧
      Swaps true a e := by
  refine ⟨by decide, ?_, trivial, ?_⟩
  · exact .key List.mem_cons_self List.mem_cons_self rfl
      (.item (i := 0) rfl rfl rfl rfl (.whole _ _))
  · exact .key [] [] _ (.tuple [] _ (.here true))

end Datum
end ScriptArena
