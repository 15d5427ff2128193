import Mathlib.Data.Fintype.BigOperators
import Mathlib.Data.Fintype.Pigeonhole
import Mathlib.Logic.Function.Iterate
import ScriptArena.Draw.Source

namespace ScriptArena.Draw

-- A state comes twice, and from then on nothing new comes.
theorem forever_kept {σ α : Type} [Fintype α] {step : σ → σ} {s : σ} (code : σ → α)
    (Proper Kept : σ → Prop) (proper : ∀ n, Proper (step^[n] s))
    (faithful : ∀ a b, Proper a → Proper b → code a = code b → a = b)
    (soFar : ∀ n < Fintype.card α, Kept (step^[n] s)) (n : Nat) : Kept (step^[n] s) := by
  have more : Fintype.card α < Fintype.card (Fin (Fintype.card α + 1)) := by
    rw [Fintype.card_fin]
    exact Nat.lt_succ_self _
  have twice : ∃ i j : Nat, i < j ∧ j ≤ Fintype.card α ∧ step^[i] s = step^[j] s := by
    rcases Fintype.exists_ne_map_eq_of_card_lt (fun k : Fin _ => code (step^[k] s)) more with
      ⟨i, j, apart, same⟩
    have again := faithful _ _ (proper i) (proper j) same
    rcases Nat.lt_or_gt_of_ne (Fin.val_ne_of_ne apart) with before | after
    · exact ⟨i, j, before, Nat.le_of_lt_succ j.isLt, again⟩
    · exact ⟨j, i, after, Nat.le_of_lt_succ i.isLt, again.symm⟩
  rcases twice with ⟨i, j, before, early, again⟩
  induction n using Nat.strong_induction_on with
  | h n ih =>
    by_cases first : n < j
    · exact soFar n (Nat.lt_of_lt_of_le first early)
    · have back : step^[n] s = step^[n - j + i] s := by
        rw [show n = n - j + j by omega, Function.iterate_add_apply, ← again,
          ← Function.iterate_add_apply, Nat.sub_add_cancel (by omega)]
      rw [back]
      exact ih _ (by omega)

namespace Twister

-- A generator that has given out a word: so many words of state, and at most all of them used.
structure Settled (width : Nat) (t : Twister) : Prop where
  words : t.words.size = width
  used : t.used ≤ wordCount

def code (width : Nat) (t : Twister) : (Fin width → Fin (2 ^ 32)) × Fin (wordCount + 1) :=
  (fun i => (wordAt t.words i).toFin, Fin.ofNat (wordCount + 1) t.used)

theorem card_code (width : Nat) :
    Fintype.card ((Fin width → Fin (2 ^ 32)) × Fin (wordCount + 1)) =
      (2 ^ 32) ^ width * (wordCount + 1) := by
  simp only [Fintype.card_prod, Fintype.card_fun, Fintype.card_fin]

theorem code_faithful {width : Nat} {a b : Twister} (settledA : Settled width a)
    (settledB : Settled width b) (same : code width a = code width b) : a = b := by
  rcases a with ⟨wordsA, usedA⟩
  rcases b with ⟨wordsB, usedB⟩
  rcases settledA with ⟨sizeA, fewA⟩
  rcases settledB with ⟨sizeB, fewB⟩
  simp only [code, Prod.mk.injEq] at same
  rcases same with ⟨sameWords, sameUsed⟩
  have words : wordsA = wordsB := by
    refine Array.ext (sizeA.trans sizeB.symm) fun i inA inB => ?_
    have word := congrFun sameWords ⟨i, sizeA ▸ inA⟩
    simpa [wordAt, inA, inB, Array.getD, ← UInt32.toFin_inj] using word
  have used : usedA = usedB := by
    have counts : usedA % (wordCount + 1) = usedB % (wordCount + 1) := congrArg Fin.val sameUsed
    rwa [Nat.mod_eq_of_lt (Nat.lt_succ_of_le fewA), Nat.mod_eq_of_lt (Nat.lt_succ_of_le fewB)] at counts
  rw [words, used]

theorem renew_size (words : Array UInt32) : (renew words).size = words.size := by
  unfold renew
  induction List.range wordCount generalizing words with
  | nil => rfl
  | cons i rest ih =>
    rw [List.foldl_cons, ih]
    exact Array.size_setIfInBounds

theorem next_settled (t : Twister) : Settled t.words.size t.next.2 := by
  by_cases unused : t.used < wordCount
  · have given : t.next.2 = { t with used := t.used + 1 } := by simp [next, unused]
    rw [given]
    exact ⟨rfl, Nat.succ_le_of_lt unused⟩
  · have given : t.next.2 = ⟨renew t.words, 1⟩ := by simp [next, unused]
    have same : (renew t.words).size = t.words.size := renew_size t.words
    rw [given]
    constructor
    · simpa only using same
    · simp [wordCount]

theorem bits_settled (k : Nat) (t : Twister) : Settled t.words.size (t.bits k).2 := by
  induction k using Nat.strong_induction_on generalizing t with
  | h k ih =>
    have settled := t.next_settled
    by_cases few : k ≤ 32
    · have given : (t.bits k).2 = t.next.2 := by
        unfold bits
        simp [few]
      rw [given]
      exact settled
    · have given : (t.bits k).2 = (t.next.2.bits (k - 32)).2 := by
        rw [bits]
        simp [few]
      rw [given, ← settled.words]
      exact ih (k - 32) (by omega) t.next.2

end Twister

theorem belowFrom_settled {n fuel r : Nat} {t next : Twister}
    (drawn : belowFrom n fuel t = .ok (r, next)) : next.Settled t.words.size := by
  induction fuel generalizing t with
  | zero => cases drawn
  | succ fuel ih =>
    have settled := t.bits_settled (Number.bitLength n)
    simp only [belowFrom] at drawn
    split at drawn
    · cases drawn
      exact settled
    · rw [← settled.words]
      exact ih drawn

theorem below_settled {n r : Int} {t : Twister} {next : Source}
    (drawn : (Source.seeded t).below n = .ok (r, next)) :
    ∃ t' : Twister, next = .seeded t' ∧ t'.Settled t.words.size := by
  simp only [Source.below] at drawn
  split at drawn
  · cases drawn
  · cases result : belowFrom n.toNat (patience t) t with
    | error why =>
      rw [result] at drawn
      cases drawn
    | ok pair =>
      rw [result] at drawn
      cases drawn
      exact ⟨pair.2, rfl, belowFrom_settled result⟩

theorem belowFrom_misses {n fuel : Nat} {t : Twister} {why : Failure}
    (failed : belowFrom n fuel t = .error why) :
    ∀ k < fuel, n ≤ (((fun t => (t.bits (Number.bitLength n)).2)^[k] t).bits (Number.bitLength n)).1 := by
  induction fuel generalizing t with
  | zero => exact fun k few => absurd few (Nat.not_lt_zero k)
  | succ fuel ih =>
    simp only [belowFrom] at failed
    split at failed
    · cases failed
    · rename_i missed
      intro k few
      cases k with
      | zero => exact Nat.not_lt.mp missed
      | succ k => exact ih failed k (Nat.lt_of_succ_lt_succ few)

theorem patience_states (t : Twister) :
    patience t = (2 ^ 32) ^ t.words.size * (wordCount + 1) + 1 := by
  rw [patience, Nat.shiftLeft_eq, Nat.one_mul, Nat.pow_mul]

-- No number is given up that some draw would have come to.
theorem belowFrom_never {n : Nat} {t : Twister} {why : Failure}
    (failed : belowFrom n (patience t) t = .error why) (k : Nat) :
    n ≤ (((fun t => (t.bits (Number.bitLength n)).2)^[k] t).bits (Number.bitLength n)).1 := by
  have misses := belowFrom_misses failed
  cases k with
  | zero => exact misses 0 (Nat.succ_pos _)
  | succ k =>
    rw [Function.iterate_succ_apply]
    refine forever_kept (Twister.code t.words.size) (Twister.Settled t.words.size)
      (fun t => n ≤ (t.bits (Number.bitLength n)).1) ?_ ?_ ?_ k
    · intro k
      induction k with
      | zero => exact t.bits_settled _
      | succ k ih =>
        rw [Function.iterate_succ_apply', ← ih.words]
        exact Twister.bits_settled _ _
    · exact fun a b => Twister.code_faithful
    · intro k few
      rw [← Function.iterate_succ_apply]
      refine misses (k + 1) ?_
      rw [Twister.card_code] at few
      rw [patience_states]
      exact Nat.succ_lt_succ few

end ScriptArena.Draw
