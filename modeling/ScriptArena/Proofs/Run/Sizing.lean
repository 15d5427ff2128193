import Mathlib.Logic.Relation
import ScriptArena.Proofs.Run.TextSizes

namespace ScriptArena
namespace Guard

variable {h : Heap} {limit : Int}

-- What is still to be sized, the next value first, and the size so far.
structure Walk where
  pending : List Value
  size : Nat

namespace Walk

def start (v : Value) : Walk := ⟨[v], 0⟩

-- So many values are taken, and the size stays within the limit.
inductive Takes (h : Heap) (limit : Int) : Nat → Walk → Walk → Prop where
  | none (w : Walk) : Takes h limit 0 w w
  | next {v : Value} {pending : List Value} {size count : Nat} {w : Walk}
      (within : (size + ownSize h v : Nat) ≤ limit)
      (rest : Takes h limit count ⟨(parts h v).reverse ++ pending, size + ownSize h v⟩ w) :
      Takes h limit (count + 1) ⟨v :: pending, size⟩ w

-- So many values are taken until nothing is left, or until one of them passes the limit.
inductive Ends (h : Heap) (limit : Int) : Nat → Walk → Except Trouble Nat → Prop where
  | empty (size : Nat) : Ends h limit 0 ⟨[], size⟩ (.ok size)
  | beyond {v : Value} {pending : List Value} {size : Nat}
      (past : limit < (size + ownSize h v : Nat)) :
      Ends h limit 1 ⟨v :: pending, size⟩ (.error (.oversize .text))
  | next {v : Value} {pending : List Value} {size count : Nat} {r : Except Trouble Nat}
      (within : (size + ownSize h v : Nat) ≤ limit)
      (rest : Ends h limit count ⟨(parts h v).reverse ++ pending, size + ownSize h v⟩ r) :
      Ends h limit (count + 1) ⟨v :: pending, size⟩ r

end Walk

theorem parts_paid (h : Heap) (v : Value) : 2 * (parts h v).length + 2 ≤ ownSize h v := by
  cases v with
  | list i => simp [parts, ownSize]
  | tuple items => simp [parts, ownSize]
  | dict i =>
    simp only [parts, ownSize, Dict.shown, List.length_append, List.length_map]
    omega
  | _ => exact two_le_ownSize h _

namespace Walk

-- Two for every value on the list and four for every value taken are paid for, the first value apart.
theorem takes_paid {count : Nat} {w w' : Walk} (takes : Takes h limit count w w') :
    2 * w'.pending.length + 4 * count + w.size ≤ 2 * w.pending.length + w'.size := by
  induction takes with
  | none w => omega
  | @next v pending size count w within rest ih =>
    have paid := parts_paid h v
    simp only [List.length_append, List.length_reverse, List.length_cons] at ih ⊢
    omega

theorem takes_within {count : Nat} {w w' : Walk} (takes : Takes h limit count w w')
    (start : w.size ≤ limit) : w'.size ≤ limit := by
  induction takes with
  | none w => exact start
  | next within rest ih => exact ih within

-- However a walk ends, it has taken all values but the last one within the limit.
theorem ends_takes {count : Nat} {w : Walk} {r : Except Trouble Nat} (ends : Ends h limit count w r) :
    ∃ before w', Takes h limit before w w' ∧ count ≤ before + 1 := by
  induction ends with
  | empty size => exact ⟨0, _, .none _, Nat.zero_le _⟩
  | beyond past => exact ⟨0, _, .none _, Nat.le_refl _⟩
  | next within rest ih =>
    rcases ih with ⟨before, w', takes, counted⟩
    exact ⟨before + 1, w', .next within takes, Nat.succ_le_succ counted⟩

theorem ends_unique {count other : Nat} {w : Walk} {r s : Except Trouble Nat}
    (one : Ends h limit count w r) (two : Ends h limit other w s) : other = count ∧ s = r := by
  induction one generalizing other with
  | empty size =>
    cases two with
    | empty => exact ⟨rfl, rfl⟩
  | beyond past =>
    cases two with
    | beyond => exact ⟨rfl, rfl⟩
    | next within => exact absurd past (Int.not_lt.mpr within)
  | next within rest ih =>
    cases two with
    | beyond past => exact absurd past (Int.not_lt.mpr within)
    | next _ rest' =>
      rcases ih rest' with ⟨rfl, same⟩
      exact ⟨rfl, same⟩

theorem ends_result {count : Nat} {w : Walk} {r : Except Trouble Nat} (ends : Ends h limit count w r) :
    r = .error (.oversize .text) ∨ ∃ n, r = .ok n := by
  induction ends with
  | empty size => exact .inr ⟨size, rfl⟩
  | beyond past => exact .inl rfl
  | next within rest ih => exact ih

-- Every value adds at least two, so fuel for half of what is left never runs out before the limit.
theorem sizeFrom_ends {fuel : Nat} {pending : List Value} {size : Nat} (within : size ≤ limit)
    (enough : limit + 2 ≤ size + 2 * fuel) :
    ∃ count, Ends h limit count ⟨pending, size⟩ (sizeFrom h limit fuel pending size) := by
  induction fuel generalizing pending size with
  | zero => omega
  | succ fuel ih =>
    cases pending with
    | nil => exact ⟨0, .empty size⟩
    | cons v pending =>
      have own := two_le_ownSize h v
      simp only [sizeFrom]
      split
      · rename_i past
        exact ⟨1, .beyond past⟩
      · rename_i room
        rw [Int.not_lt] at room
        rcases @ih ((parts h v).reverse ++ pending) (size + ownSize h v) room (by omega) with ⟨count, ends⟩
        exact ⟨count + 1, .next room ends⟩

end Walk

-- One value is shown inside the other: an item of a list or a tuple, or a key or a value of a mapping.
def Inside (h : Heap) (outer inner : Value) : Prop := inner ∈ parts h outer

theorem weighs_inside {v w : Value} {n : Nat} (weighs : Weighs h [v] n) (inside : Inside h v w) :
    ∃ m < n, Weighs h [w] m := by
  rcases weighs_one weighs with ⟨inner, listed, rfl⟩
  rcases weighs_sublist (List.singleton_sublist.mpr inside) listed with ⟨m, less, part⟩
  have own := two_le_ownSize h v
  exact ⟨m, by omega, part⟩

theorem weighs_within {v w : Value} {n : Nat} (weighs : Weighs h [v] n)
    (within : Relation.ReflTransGen (Inside h) v w) : ∃ m, Weighs h [w] m := by
  induction within with
  | refl => exact ⟨n, weighs⟩
  | tail _ inside ih =>
    rcases ih with ⟨m, outer⟩
    rcases weighs_inside outer inside with ⟨k, -, inner⟩
    exact ⟨k, inner⟩

theorem weighs_deeper {v w : Value} {n : Nat} (weighs : Weighs h [v] n)
    (deeper : Relation.TransGen (Inside h) v w) : ∃ m < n, Weighs h [w] m := by
  induction deeper with
  | single inside => exact weighs_inside weighs inside
  | tail _ inside ih =>
    rcases ih with ⟨m, less, outer⟩
    rcases weighs_inside outer inside with ⟨k, fewer, inner⟩
    exact ⟨k, Nat.lt_trans fewer less, inner⟩

-- The weight would be less than itself.
theorem ring_weightless {v : Value} (ring : Relation.TransGen (Inside h) v v) (n : Nat) :
    ¬ Weighs h [v] n := by
  induction n using Nat.strong_induction_on with
  | h n ih =>
    intro weighs
    rcases weighs_deeper weighs ring with ⟨m, less, again⟩
    exact ih m less again

-- The walk ends, after taking at most half as many values as the limit and one more; its list is at
-- most as long as the limit and one more; and a value within which something contains itself is
-- refused, whatever the limit.
theorem sizing_bounded (h : Heap) (l : Limits) (v : Value) (proper : 0 ≤ l.maxSequenceLength) :
    (∃ taken : Nat, taken ≤ l.maxSequenceLength / 2 + 1 ∧
      ∀ count r, Walk.Ends h l.maxSequenceLength count (.start v) r ↔
        count = taken ∧ r = textSize h l v) ∧
    (∀ count w, Walk.Takes h l.maxSequenceLength count (.start v) w →
      w.pending.length ≤ l.maxSequenceLength + 1) ∧
    (∀ w, Relation.ReflTransGen (Inside h) v w → Relation.TransGen (Inside h) w w →
      textSize h l v = .error (.oversize .text)) := by
  have bounds : ∀ count w, Walk.Takes h l.maxSequenceLength count (.start v) w →
      2 * w.pending.length + 4 * count ≤ 2 + l.maxSequenceLength := by
    intro count w takes
    have paid := Walk.takes_paid takes
    have size := Walk.takes_within takes proper
    simp only [Walk.start, List.length_singleton] at paid
    omega
  have ended : ∃ taken, Walk.Ends h l.maxSequenceLength taken (.start v) (textSize h l v) :=
    Walk.sizeFrom_ends proper (by omega)
  rcases ended with ⟨taken, ends⟩
  refine ⟨⟨taken, ?_, ?_⟩, ?_, ?_⟩
  · rcases Walk.ends_takes ends with ⟨before, w, takes, counted⟩
    have bound := bounds before w takes
    omega
  · intro count r
    constructor
    · exact fun other => Walk.ends_unique ends other
    · rintro ⟨rfl, rfl⟩
      exact ends
  · intro count w takes
    have bound := bounds count w takes
    omega
  · intro w within ring
    rcases Walk.ends_result ends with refused | ⟨n, sized⟩
    · exact refused
    · rcases weighs_within (textSize_weighs sized) within with ⟨m, weighs⟩
      exact absurd weighs (ring_weightless ring m)

-- A list of a mapping that holds the list.
def ringHeap : Heap :=
  { Heap.initial with
    lists := #[#[.str "ring", .dict 0]]
    dicts := #[⟨#[some (.int 1, .list 0)], ∅, 4⟩] }

theorem ring_refused :
    (0 : Int) ≤ ({ maxSequenceLength := 100 } : Limits).maxSequenceLength ∧
      textSize ringHeap { maxSequenceLength := 100 } (.tuple none [.list 0, .list 0]) =
        .error (.oversize .text) := by
  have proper : (0 : Int) ≤ ({ maxSequenceLength := 100 } : Limits).maxSequenceLength := by decide
  have item : Inside ringHeap (.tuple none [.list 0, .list 0]) (.list 0) := List.mem_cons_self
  have entry : Inside ringHeap (.list 0) (.dict 0) := by simp [Inside, parts, ringHeap, Heap.listAt]
  have back : Inside ringHeap (.dict 0) (.list 0) := by
    simp [Inside, parts, ringHeap, Heap.dictAt, Dict.shown, Dict.toList, ViewKind.item]
  have bounded := sizing_bounded ringHeap _ (.tuple none [.list 0, .list 0]) proper
  exact ⟨proper, bounded.2.2 (.list 0) (.single item) (.tail (.single entry) back)⟩

end Guard
end ScriptArena
