import Mathlib.Logic.Relation
import ScriptArena.Proofs.Judge.Truths

namespace ScriptArena
namespace Datum

-- One part of a datum is changed. It is not in a key.
inductive Replaces (change : Datum → Datum → Prop) : Datum → Datum → Prop where
  | here {d d' : Datum} (changed : change d d') : Replaces change d d'
  | list {d d' : Datum} (before after : List Datum) (inner : Replaces change d d') :
      Replaces change (.list (before ++ d :: after)) (.list (before ++ d' :: after))
  | tuple {d d' : Datum} (before after : List Datum) (inner : Replaces change d d') :
      Replaces change (.tuple (before ++ d :: after)) (.tuple (before ++ d' :: after))
  | value {d d' : Datum} (before after : List (Datum × Datum)) (k : Datum)
      (inner : Replaces change d d') :
      Replaces change (.dict (before ++ (k, d) :: after)) (.dict (before ++ (k, d') :: after))

-- Another way to write the same: with the other kind of brackets, or with the entries in another order.
inductive Respells : Datum → Datum → Prop where
  | asTuple (items : List Datum) : Respells (.list items) (.tuple items)
  | asList (items : List Datum) : Respells (.tuple items) (.list items)
  | reordered {es fs : List (Datum × Datum)} (order : es.Perm fs) : Respells (.dict es) (.dict fs)

-- Any number of parts is written in another way, one after the other.
def Respelt : Datum → Datum → Prop := Relation.ReflTransGen (Replaces Respells)

-- An equal datum, made up in the same way.
def Matches (d d' : Datum) : Prop := Plain d' ∧ d.agrees d' = true

variable {a a' b e e' : Datum} {xs : List Datum} {change : Datum → Datum → Prop}

theorem sequence_met (left : a.sequence? = some xs) (met : a.agrees e = true) :
    ∃ ys, e.sequence? = some ys ∧ agreesAll xs ys = true := by
  cases a with
  | list | tuple =>
    cases left
    rw [agrees] at met
    split at met
    · rename_i ys right
      exact ⟨ys, right, met⟩
    · cases met
  | _ => cases left

theorem sequences_through (left : a.sequence? = some xs)
    (each : ∀ x ∈ xs, ∀ y z, Plain y → Plain z → x.agrees y = true → y.agrees z = true →
      x.agrees z = true)
    (between : Plain b) (expected : Plain e) (first : a.agrees b = true)
    (second : b.agrees e = true) : a.agrees e = true := by
  obtain ⟨ys, middle, first⟩ := sequence_met left first
  obtain ⟨zs, right, second⟩ := sequence_met middle second
  rw [agreesAll_iff] at first second
  rw [agrees_sequence left right, agreesAll_iff]
  refine ⟨first.1.trans second.1, fun i x z here there => ?_⟩
  have within : i < ys.length := first.1 ▸ (List.getElem?_eq_some_iff.mp here).1
  have halfway : ys[i]? = some ys[i] := List.getElem?_eq_getElem within
  have plainY := plain_item between middle (List.mem_of_getElem? halfway)
  have plainZ := plain_item expected right (List.mem_of_getElem? there)
  exact each x (List.mem_of_getElem? here) _ z plainY plainZ (first.2 i x _ here halfway)
    (second.2 i _ z halfway there)

theorem agrees_trans (plain : Plain a) :
    ∀ b e, Plain b → Plain e → a.agrees b = true → b.agrees e = true → a.agrees e = true := by
  induction plain with
  | none =>
    intro b e between _ first second
    cases between with
    | none => exact second
    | _ => cases first
  | bool t =>
    intro b e between _ first second
    cases between with
    | bool u =>
      have same : t = u := eq_of_beq first
      exact same ▸ second
    | _ => cases first
  | int n =>
    intro b e between _ first second
    cases between with
    | int m => exact (agrees_int n m).mp first ▸ second
    | _ => cases first
  | str s =>
    intro b e between _ first second
    cases between with
    | str t =>
      have same : s = t := eq_of_beq first
      exact same ▸ second
    | _ => cases first
  | list _ ih | tuple _ ih =>
    intro b e between expected first second
    exact sequences_through rfl ih between expected first second
  | dict _ _ _ _ _ ih =>
    intro b e between expected first second
    cases between with
    | dict _ plainB hashableB distinctB =>
      cases expected with
      | dict _ plainE hashableE distinctE =>
        obtain ⟨length, each⟩ := (agrees_dict hashableB distinctB).mp first
        obtain ⟨length', each'⟩ := (agrees_dict hashableE distinctE).mp second
        refine (agrees_dict hashableE distinctE).mpr ⟨length.trans length', fun p here => ?_⟩
        obtain ⟨q, halfway, same, met⟩ := each p here
        obtain ⟨r, there, same', met'⟩ := each' q halfway
        exact ⟨r, there, same.trans same',
          ih p here q.2 r.2 (plainB q halfway) (plainE r there) met met'⟩
      | _ => cases second
    | _ => cases first

-- What agrees with one of two that agree agrees with the other.
theorem agrees_congr (plain : Plain a) (met : Matches a a') (expected : Plain e) :
    a'.agrees e = a.agrees e ∧ e.agrees a' = e.agrees a := by
  obtain ⟨plain', there⟩ := met
  have back := agrees_swapped plain a' plain' there
  constructor
  · exact Bool.eq_iff_iff.mpr
      ⟨agrees_trans plain a' e plain' expected there, agrees_trans plain' a e plain expected back⟩
  · exact Bool.eq_iff_iff.mpr
      ⟨fun met => agrees_trans expected a' a plain' plain met back,
        fun met => agrees_trans expected a a' plain plain' met there⟩

theorem agreesAll_replaced {before after : List Datum} {d d' : Datum}
    (plain : ∀ x ∈ before ++ d :: after, Plain x) (met : d.agrees d' = true) :
    agreesAll (before ++ d :: after) (before ++ d' :: after) = true := by
  induction before with
  | nil =>
    have others : Plain (.list after) := .list fun x inside => plain x (List.mem_cons_of_mem _ inside)
    have same : agreesAll after after = true := agrees_self others
    rw [List.nil_append, List.nil_append, agreesAll, met, same, Bool.and_true]
  | cons x before ih =>
    obtain ⟨first, others⟩ := List.forall_mem_cons.mp plain
    rw [List.cons_append, List.cons_append, agreesAll, agrees_self first, ih others, Bool.and_true]

-- A part may be replaced by what is a match for it.
theorem replaces_matches (replaces : Replaces change a a')
    (fits : ∀ d d', Plain d → change d d' → Matches d d') (plain : Plain a) : Matches a a' := by
  induction replaces with
  | here changed => exact fits _ _ plain changed
  | list before after _ ih =>
    cases plain with
    | list each =>
      obtain ⟨plain', met⟩ := ih (each _ List.mem_append_cons_self)
      exact ⟨.list (all_replaced each plain'), agreesAll_replaced each met⟩
  | tuple before after _ ih =>
    cases plain with
    | tuple each =>
      obtain ⟨plain', met⟩ := ih (each _ List.mem_append_cons_self)
      exact ⟨.tuple (all_replaced each plain'), agreesAll_replaced each met⟩
  | @value d d' before after k _ ih =>
    cases plain with
    | dict keys values hashable distinct =>
      have here : (k, d) ∈ before ++ (k, d) :: after := List.mem_append_cons_self
      have there : (k, d') ∈ before ++ (k, d') :: after := List.mem_append_cons_self
      have key : Plain k := keys _ here
      have known : k.key? ≠ Option.none := hashable _ here
      obtain ⟨plain', met⟩ := ih (values _ here)
      have distinct' : ((before ++ (k, d') :: after).map (·.1.key?)).Nodup := by
        rwa [List.map_append, List.map_cons] at distinct ⊢
      have hashable' := all_replaced (y := (k, d')) hashable known
      refine ⟨.dict (all_replaced keys key) (all_replaced values plain') hashable' distinct',
        (agrees_dict hashable' distinct').mpr ⟨by simp, ?_⟩⟩
      intro p inside
      rcases List.mem_append.mp inside with early | late
      · have kept : p ∈ before ++ (k, d') :: after := List.mem_append_left _ early
        exact ⟨p, kept, rfl, agrees_self (values p inside)⟩
      · rcases List.mem_cons.mp late with rfl | late
        · exact ⟨_, there, rfl, met⟩
        · have kept : p ∈ before ++ (k, d') :: after :=
            List.mem_append_right _ (List.mem_cons_of_mem _ late)
          exact ⟨p, kept, rfl, agrees_self (values p inside)⟩

theorem respells_matches (respells : Respells a a') (plain : Plain a) : Matches a a' := by
  cases respells with
  | asTuple items =>
    cases plain with
    | list each => exact ⟨.tuple each, agrees_self (.list each)⟩
  | asList items =>
    cases plain with
    | tuple each => exact ⟨.list each, agrees_self (.tuple each)⟩
  | @reordered es fs order =>
    cases plain with
    | dict keys values hashable distinct =>
      have distinct' : (fs.map (·.1.key?)).Nodup := (order.map _).nodup_iff.mp distinct
      have hashable' : ∀ p ∈ fs, p.1.key? ≠ Option.none := fun p inside =>
        hashable p (order.mem_iff.mpr inside)
      refine ⟨.dict (fun p inside => keys p (order.mem_iff.mpr inside))
        (fun p inside => values p (order.mem_iff.mpr inside)) hashable' distinct', ?_⟩
      refine (agrees_dict hashable' distinct').mpr ⟨order.length_eq, fun p inside => ?_⟩
      exact ⟨p, order.mem_iff.mp inside, rfl, agrees_self (values p inside)⟩

theorem respelt_matches (respelt : Respelt a a') (plain : Plain a) : Matches a a' := by
  induction respelt with
  | refl => exact ⟨plain, agrees_self plain⟩
  | tail _ replaces ih =>
    obtain ⟨between, first⟩ := ih
    obtain ⟨plain', second⟩ := replaces_matches replaces (fun _ _ plain => (respells_matches · plain)) between
    exact ⟨plain', agrees_trans plain _ _ between plain' first second⟩

-- Among data of truth values, integers, texts and containers, agreeing is an equivalence. It does not
-- change when a part outside of keys is replaced by one that agrees with it; so neither side has to keep
-- to the kind of its sequences or the order of its entries, and what a heap holds is compared as the
-- datum that it stands for.
theorem agrees_congruence :
    Equivalence (fun a e : { d // Plain d } => a.1.agrees e.1 = true) ∧
      ∀ a e, Plain a → Plain e →
        (∀ a', Replaces Matches a a' →
          Plain a' ∧ a.agrees a' = true ∧ a'.agrees e = a.agrees e ∧ e.agrees a' = e.agrees a) ∧
        ∀ a' e', Respelt a a' → Respelt e e' →
          Plain a' ∧ Plain e' ∧ a'.agrees e' = a.agrees e ∧
            ∀ h v, Value.Denotes h v a' → v.agrees h e' = a.agrees e := by
  refine ⟨⟨?_, ?_, ?_⟩, fun a e plain expected => ⟨fun a' replaces => ?_, ?_⟩⟩
  · exact fun a => agrees_self a.2
  · exact fun {a e} met => agrees_swapped a.2 e.1 e.2 met
  · exact fun {a b e} first second => agrees_trans a.2 b.1 e.1 b.2 e.2 first second
  · have matched := replaces_matches replaces (fun _ _ _ met => met) plain
    exact ⟨matched.1, matched.2, agrees_congr plain matched expected⟩
  · intro a' e' left right
    have actual := respelt_matches left plain
    have wanted := respelt_matches right expected
    have same : a'.agrees e' = a.agrees e := calc a'.agrees e'
      _ = a.agrees e' := (agrees_congr plain actual wanted.1).1
      _ = a.agrees e := (agrees_congr expected wanted plain).2
    refine ⟨actual.1, wanted.1, same, fun h v denotes => ?_⟩
    exact (Value.agrees_denotes denotes actual.1 e' wanted.1).trans same

-- A sequence in either kind of brackets.
def bracketed (round : Bool) (items : List Datum) : Datum := if round then .tuple items else .list items

def nested (outer inner : Bool) : Datum := bracketed outer [.int 1, bracketed inner [.bool true]]

def entries (outer inner : Bool) : List (Datum × Datum) :=
  [(.str "x", nested outer inner), (.tuple [.int 2, .str "k"], .none)]

theorem bracketed_plain {items : List Datum} (round : Bool) (each : ∀ d ∈ items, Plain d) :
    Plain (bracketed round items) := by
  cases round with
  | true => exact .tuple each
  | false => exact .list each

theorem nested_plain (outer inner : Bool) : Plain (nested outer inner) := by
  refine bracketed_plain outer ?_
  rw [List.forall_mem_cons, List.forall_mem_singleton]
  refine ⟨.int 1, bracketed_plain inner ?_⟩
  rw [List.forall_mem_singleton]
  exact .bool true

theorem entries_plain (outer inner : Bool) : Plain (.dict (entries outer inner)) := by
  have distinct : [some (Key.str "x"), some (.tuple [.num 2, .str "k"])].Nodup := by simp
  refine .dict ?_ ?_ ?_ distinct
  · rw [entries, List.forall_mem_cons, List.forall_mem_singleton]
    refine ⟨.str "x", .tuple ?_⟩
    rw [List.forall_mem_cons, List.forall_mem_singleton]
    exact ⟨.int 2, .str "k"⟩
  · rw [entries, List.forall_mem_cons, List.forall_mem_singleton]
    exact ⟨nested_plain outer inner, .none⟩
  · rw [entries, List.forall_mem_cons, List.forall_mem_singleton]
    exact ⟨Option.some_ne_none _, Option.some_ne_none _⟩

-- The outer list becomes a tuple, then the inner tuple becomes a list, and the entries change places.
theorem entries_respelt : Respelt (.dict (entries false true)) (.dict (entries true false).reverse) := by
  have outside : Replaces Respells (.dict (entries false true)) (.dict (entries true true)) :=
    .value [] _ _ (.here (.asTuple _))
  have inside : Replaces Respells (.dict (entries true true)) (.dict (entries true false)) :=
    .value [] _ _ (.tuple [.int 1] [] (.here (.asList _)))
  have order : Replaces Respells (.dict (entries true false)) (.dict (entries true false).reverse) :=
    .here (.reordered (List.reverse_perm _).symm)
  exact ((Relation.ReflTransGen.single outside).tail inside).tail order

theorem entries_congruent :
    (Datum.dict (entries true false).reverse).agrees (.dict (entries false true)) = true ∧
      (Datum.dict (entries true true)).agrees (.dict (entries false false)) = true ∧
      Value.agrees .initial (.tuple Option.none [.int 1, .tuple Option.none [.bool true]])
        (nested false false) = true := by
  obtain ⟨⟨same, -, -⟩, congruent⟩ := agrees_congruence
  have plain := entries_plain false true
  have respelt := ((congruent _ _ plain plain).2 _ _ entries_respelt .refl).2.2.1
  have part : Replaces Matches (.dict (entries false true)) (.dict (entries true true)) :=
    .value [] _ _ (.here ⟨nested_plain true true, by decide⟩)
  have replaced := ((congruent _ _ plain (entries_plain false false)).1 _ part).2.2.1
  have denotes : Value.Denotes .initial (.tuple Option.none [.int 1, .tuple Option.none [.bool true]])
      (nested true true) := by
    refine .tuple rfl fun i v d here there => ?_
    match i with
    | 0 =>
      cases here
      cases there
      exact .int 1
    | 1 =>
      cases here
      cases there
      refine .tuple rfl fun j w c here there => ?_
      cases j with
      | zero =>
        cases here
        cases there
        exact .bool true
      | succ => cases here
    | i + 2 => cases here
  have read := ((congruent _ _ (nested_plain true true) (nested_plain false false)).2 _ _ .refl
    .refl).2.2.2 .initial _ denotes
  exact ⟨respelt.trans (same ⟨_, plain⟩), replaced.trans (by decide), read.trans (by decide)⟩

end Datum
end ScriptArena
