import ScriptArena.Draw.Twister
import ScriptArena.Number.Numeral

namespace ScriptArena.Draw

inductive Source where
  | seeded (t : Twister)
  | scripted (numbers : List Int)
deriving Repr, DecidableEq

inductive Failure where
  | emptyRange
  | exhausted
deriving Repr, DecidableEq

-- More than the states a generator comes to. One that has missed so many times will never hit.
def patience (t : Twister) : Nat := (1 <<< (32 * t.words.size)) * (wordCount + 1) + 1

-- As many bits as `n` has are drawn until they are a number below `n`.
def belowFrom (n : Nat) : Nat → Twister → Except Failure (Nat × Twister)
  | 0, _ => .error .exhausted
  | fuel + 1, t =>
    let (r, t) := t.bits (Number.bitLength n)
    if r < n then .ok (r, t) else belowFrom n fuel t

namespace Source

def ofSeed (seed : Int) : Source := .seeded (.ofSeed seed)

def below (n : Int) : Source → Except Failure (Int × Source)
  | .seeded t =>
    if n ≤ 0 then .error .emptyRange
    else (belowFrom n.toNat (patience t) t).map fun (r, t) => (r, .seeded t)
  | .scripted numbers =>
    if n ≤ 0 then .error .emptyRange
    else match numbers with
      | [] => .error .exhausted
      | k :: rest => .ok (k % n, .scripted rest)

-- How many cells may be tried before giving up.
def tries : Source → Nat
  | .seeded t => patience t
  | .scripted numbers => numbers.length + 1

end Source

theorem belowFrom_lt {n fuel : Nat} {t next : Twister} {r : Nat}
    (drawn : belowFrom n fuel t = .ok (r, next)) : r < n := by
  induction fuel generalizing t with
  | zero => simp [belowFrom] at drawn
  | succ fuel ih =>
    simp only [belowFrom] at drawn
    split at drawn
    · rename_i small
      cases drawn
      exact small
    · exact ih drawn

theorem Source.below_range {n r : Int} {s next : Source} (drawn : s.below n = .ok (r, next)) :
    0 ≤ r ∧ r < n := by
  cases s with
  | seeded t =>
    simp only [below] at drawn
    split at drawn
    · cases drawn
    · cases result : belowFrom n.toNat (patience t) t with
      | error e => simp [result, Except.map] at drawn
      | ok pair =>
        obtain ⟨k, t'⟩ := pair
        have small := belowFrom_lt result
        simp only [result, Except.map, Except.ok.injEq, Prod.mk.injEq] at drawn
        omega
  | scripted numbers =>
    simp only [below] at drawn
    split at drawn
    · cases drawn
    · cases numbers with
      | nil => simp at drawn
      | cons k rest =>
        simp only [Except.ok.injEq, Prod.mk.injEq] at drawn
        have low := Int.emod_nonneg k (b := n) (by omega)
        have high := Int.emod_lt_of_pos k (b := n) (by omega)
        omega

end ScriptArena.Draw
