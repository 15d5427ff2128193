import Mathlib.Data.List.Basic
import Mathlib.Tactic.Ring
import ScriptArena.Number.Decimal
import ScriptArena.Value.Text

namespace ScriptArena

namespace Number

theorem digitsFrom_length {base : Nat} (fuel : Nat) {n k : Nat} (few : n < base ^ (k + 1))
    (acc : List Char) : (digitsFrom base fuel n acc).length ≤ acc.length + k + 1 := by
  induction fuel generalizing n k acc with
  | zero =>
    unfold digitsFrom
    omega
  | succ fuel ih =>
    unfold digitsFrom
    dsimp only
    split
    · simp only [List.length_cons]
      omega
    · rename_i more
      cases k with
      | zero =>
        rw [Nat.zero_add, Nat.pow_one] at few
        exact absurd (Nat.div_eq_of_lt few) more
      | succ k =>
        have fewer : n / base < base ^ (k + 1) := by
          rw [Nat.pow_succ] at few
          exact Nat.div_lt_of_lt_mul (Nat.mul_comm _ base ▸ few)
        have digits := ih fewer (digitChar (n % base) :: acc)
        simp only [List.length_cons] at digits
        omega

theorem numeral_length {base n k : Nat} (few : n < base ^ (k + 1)) :
    (numeral base n).length ≤ k + 1 := by
  have digits := digitsFrom_length (bitLength n + 1) few []
  simpa [numeral] using digits

theorem decimal_length {n k : Nat} (few : n < 10 ^ (k + 1)) : (decimal n).length ≤ k + 1 :=
  numeral_length few

theorem signed_length (neg : Bool) (text : String) : (signed neg text).length ≤ text.length + 1 := by
  unfold signed
  split
  · rw [String.length_append]
    exact Nat.le_of_eq (Nat.add_comm _ _)
  · omega

-- Three bits make at most one digit, in every base from eight on.
theorem lt_of_bits {base : Nat} (wide : 8 ≤ base) (n : Nat) : n < base ^ (bitLength n / 3 + 1) := by
  have split : bitLength n ≤ 3 * (bitLength n / 3 + 1) := by omega
  calc n < 2 ^ bitLength n := bitLength_bound n
    _ ≤ 2 ^ (3 * (bitLength n / 3 + 1)) := Nat.pow_le_pow_right (by decide) split
    _ = 8 ^ (bitLength n / 3 + 1) := by rw [Nat.pow_mul]
    _ ≤ base ^ (bitLength n / 3 + 1) := Nat.pow_le_pow_left wide _

theorem intText_length (n : Int) : (intText n).length ≤ bitLength n.natAbs / 3 + 2 := by
  have digits := decimal_length (lt_of_bits (by decide) n.natAbs)
  have sign := signed_length (n < 0) (decimal n.natAbs)
  unfold intText
  omega

-- Powers of two lie at most two decades above what the logarithm of two, in five places, tells.
theorem pow_two_le_ten : ∀ n < 1025, 2 ^ (n + 1) ≤ 10 ^ (n * 30103 / 100000 + 2) := by
  decide +kernel

theorem ten_le_pow_two : ∀ n < 1080, 2 * 10 ^ ((n * 30103 + 99999) / 100000) ≤ 10 ^ 2 * 2 ^ n := by
  decide +kernel

-- The decade that the lengths of two numbers put their quotient in, as a difference.
theorem decade_bound {x d : Nat} (positive : 0 < d) (small : x.log2 < 1025) (fine : d.log2 < 1080) :
    ∃ up down : Nat, ((x.log2 : Int) - d.log2) * 30103 / 100000 = (up : Int) - down ∧
      x * 10 ^ down < d * 10 ^ (up + 2) := by
  have above : x < 2 ^ (x.log2 + 1) := Nat.lt_log2_self
  have below : 2 ^ d.log2 ≤ d := Nat.log2_self_le (Nat.pos_iff_ne_zero.mp positive)
  rcases Nat.le_total d.log2 x.log2 with larger | smaller
  · obtain ⟨n, same⟩ := Nat.exists_eq_add_of_le larger
    refine ⟨n * 30103 / 100000, 0, by omega, ?_⟩
    calc x * 10 ^ 0 = x := Nat.mul_one x
      _ < 2 ^ (x.log2 + 1) := above
      _ = 2 ^ d.log2 * 2 ^ (n + 1) := by rw [same, Nat.add_assoc, Nat.pow_add]
      _ ≤ d * 10 ^ (n * 30103 / 100000 + 2) :=
        Nat.mul_le_mul below (pow_two_le_ten n (by omega))
  · obtain ⟨n, same⟩ := Nat.exists_eq_add_of_le smaller
    refine ⟨0, (n * 30103 + 99999) / 100000, by omega, ?_⟩
    calc x * 10 ^ ((n * 30103 + 99999) / 100000)
      _ < 2 ^ (x.log2 + 1) * 10 ^ ((n * 30103 + 99999) / 100000) :=
        Nat.mul_lt_mul_of_pos_right above (Nat.pow_pos (by decide))
      _ = 2 ^ x.log2 * (2 * 10 ^ ((n * 30103 + 99999) / 100000)) := by rw [Nat.pow_succ]; ring
      _ ≤ 2 ^ x.log2 * (10 ^ 2 * 2 ^ n) :=
        Nat.mul_le_mul_left _ (ten_le_pow_two n (by omega))
      _ = 2 ^ d.log2 * 10 ^ 2 := by rw [same, Nat.pow_add]; ring
      _ ≤ d * 10 ^ (0 + 2) := Nat.mul_le_mul_right _ below

theorem leadingExponent_bounds (num den : Nat) :
    ((num.log2 : Int) - den.log2) * 30103 / 100000 - 1 ≤ leadingExponent num den ∧
      leadingExponent num den ≤ ((num.log2 : Int) - den.log2) * 30103 / 100000 + 2 := by
  unfold leadingExponent
  dsimp only
  split
  · omega
  split
  · omega
  split
  · omega
  · omega

-- On a grid that is not much finer than the number, it has few digits.
theorem grid_point_lt {x d : Nat} (positive : 0 < d) (small : x.log2 < 1025) (fine : d.log2 < 1080)
    {k : Int} (digits : Nat)
    (coarse : ((x.log2 : Int) - d.log2) * 30103 / 100000 + 2 ≤ k + digits) :
    x * (grid k).2 / (d * (grid k).1) < 10 ^ digits := by
  obtain ⟨up, down, decade, bound⟩ := decade_bound positive small fine
  have scale : 0 < 10 ^ down := Nat.pow_pos (by decide)
  refine Nat.div_lt_of_lt_mul (Nat.lt_of_mul_lt_mul_right (a := 10 ^ down) ?_)
  unfold grid
  split
  · rename_i whole
    obtain ⟨n, rfl⟩ := Int.eq_ofNat_of_zero_le whole
    calc x * 1 * 10 ^ down = x * 10 ^ down := by rw [Nat.mul_one]
      _ < d * 10 ^ (up + 2) := bound
      _ ≤ d * 10 ^ (n + digits + down) :=
        Nat.mul_le_mul_left d (Nat.pow_le_pow_right (by decide) (by omega))
      _ = d * 10 ^ n * 10 ^ digits * 10 ^ down := by rw [Nat.pow_add, Nat.pow_add]; ring
  · rename_i broken
    obtain ⟨n, same⟩ := Int.eq_ofNat_of_zero_le (a := -k) (by omega)
    rw [same]
    calc x * 10 ^ n * 10 ^ down = x * 10 ^ down * 10 ^ n := by ring
      _ < d * 10 ^ (up + 2) * 10 ^ n := Nat.mul_lt_mul_of_pos_right bound (Nat.pow_pos (by decide))
      _ = d * 10 ^ (up + 2 + n) := by rw [Nat.pow_add _ (up + 2)]; ring
      _ ≤ d * 10 ^ (digits + down) :=
        Nat.mul_le_mul_left d (Nat.pow_le_pow_right (by decide) (by omega))
      _ = d * 1 * 10 ^ digits * 10 ^ down := by rw [Nat.pow_add]; ring

theorem point?_le {r : Rounding} {k : Int} {p : Nat} (found : r.point? k = some p) :
    p ≤ r.mid * r.num * (grid k).2 / (r.den * (grid k).1) + 1 := by
  unfold Rounding.point? at found
  dsimp only at found
  split at found
  · cases found
    split
    · omega
    · omega
  split at found
  · cases found
    omega
  split at found
  · cases found
    omega
  · cases found

theorem searchGrids_bounds (r : Rounding) (k : Int) (fuel : Nat) :
    k - fuel ≤ (searchGrids r k fuel).2 ∧ (searchGrids r k fuel).2 ≤ k ∧
      (searchGrids r k fuel).1 = (r.point? (searchGrids r k fuel).2).getD 0 := by
  induction fuel generalizing k with
  | zero => exact ⟨by simp [searchGrids], by simp [searchGrids], rfl⟩
  | succ fuel ih =>
    unfold searchGrids
    split
    · rename_i p found
      refine ⟨by dsimp only; omega, by dsimp only; omega, ?_⟩
      dsimp only
      rw [found]
      rfl
    · obtain ⟨low, high, point⟩ := ih (k - 1)
      refine ⟨by omega, by omega, point⟩

theorem stripZeros_bounds (fuel d : Nat) (k : Int) :
    (shortest.stripZeros fuel d k).1 ≤ d ∧ k ≤ (shortest.stripZeros fuel d k).2 ∧
      (shortest.stripZeros fuel d k).2 ≤ k + fuel := by
  induction fuel generalizing d k with
  | zero => exact ⟨Nat.le_refl d, by simp [shortest.stripZeros], by simp [shortest.stripZeros]⟩
  | succ fuel ih =>
    unfold shortest.stripZeros
    split
    · obtain ⟨less, low, high⟩ := ih (d / 10) (k + 1)
      refine ⟨Nat.le_trans less (Nat.div_le_self d 10), by omega, by omega⟩
    · refine ⟨Nat.le_refl d, by dsimp only; omega, by dsimp only; omega⟩

-- What a finite float may hold.
theorem decode_bounds {x : Float} {neg : Bool} {m : Nat} {e : Int}
    (opened : Binary64.decode x = .finite neg m e) : m < 2 ^ 53 ∧ -1074 ≤ e ∧ e ≤ 971 := by
  unfold Binary64.decode at opened
  dsimp only at opened
  split at opened
  · split at opened
    · cases opened
    · cases opened
  split at opened
  · cases opened
    omega
  · cases opened
    omega

theorem log2_lt_of_lt {x k : Nat} (some : 0 < k) (below : x < 2 ^ k) : x.log2 < k := by
  rcases Nat.eq_zero_or_pos x with rfl | positive
  · exact some
  · rwa [Nat.log2_lt (Nat.pos_iff_ne_zero.mp positive)]

theorem scaled_lt {m a k n : Nat} (narrow : m < 2 ^ a) (room : a + k ≤ n) : m * 2 ^ k < 2 ^ n := by
  calc m * 2 ^ k < 2 ^ a * 2 ^ k := Nat.mul_lt_mul_of_pos_right narrow (Nat.pow_pos (by decide))
    _ = 2 ^ (a + k) := (Nat.pow_add ..).symm
    _ ≤ 2 ^ n := Nat.pow_le_pow_right (by decide) room

-- The float is the quotient of two numbers that are not too long.
theorem rounding_log {m : Nat} {e : Int} (narrow : m < 2 ^ 53)
    (low : -1074 ≤ e) (high : e ≤ 971) :
    ((Rounding.of m e).mid * (Rounding.of m e).num).log2 < 1025 ∧
      0 < (Rounding.of m e).den ∧ (Rounding.of m e).den.log2 < 1080 := by
  have wider : 4 * m < 2 ^ 55 := by omega
  have one : Nat.log2 1 < 1080 := by decide
  unfold Rounding.of
  dsimp only
  split
  · exact ⟨log2_lt_of_lt (by decide) (scaled_lt wider (by omega)), Nat.one_pos, one⟩
  · have same : Nat.pow 2 (-(e - 2)).toNat = 2 ^ (-(e - 2)).toNat := rfl
    have short : 4 * m * 2 ^ 0 < 2 ^ 1025 := scaled_lt wider (by decide)
    refine ⟨log2_lt_of_lt (by decide) short, Nat.pow_pos (by decide), ?_⟩
    rw [same, Nat.log2_two_pow]
    omega

theorem shortest_bounds {m : Nat} {e : Int} (narrow : m < 2 ^ 53)
    (low : -1074 ≤ e) (high : e ≤ 971) :
    (shortest m e).1 ≤ 10 ^ 20 ∧ -350 ≤ (shortest m e).2 ∧ (shortest m e).2 ≤ 350 := by
  obtain ⟨small, den, fine⟩ := rounding_log narrow low high
  unfold shortest
  dsimp only
  generalize Rounding.of m e = r at small den fine
  obtain ⟨least, most⟩ := leadingExponent_bounds (r.mid * r.num) r.den
  generalize leadingExponent (r.mid * r.num) r.den = top at least most
  obtain ⟨deep, shallow, point⟩ := searchGrids_bounds r top 17
  generalize searchGrids r top 17 = found at deep shallow point
  obtain ⟨d, k⟩ := found
  dsimp only at deep shallow point
  obtain ⟨less, up, down⟩ := stripZeros_bounds 20 d k
  have digits : d ≤ 10 ^ 20 := by
    cases here : r.point? k with
    | none =>
      rw [here] at point
      subst point
      exact Nat.zero_le _
    | some p =>
      have few := grid_point_lt (k := k) den small fine 20 (by omega)
      have near := point?_le here
      rw [here] at point
      subst point
      exact Nat.le_trans near few
  dsimp only
  exact ⟨Nat.le_trans less digits, by omega, by omega⟩

theorem exponentText_length (mark : String) {k : Int} (few : k.natAbs < 1000) :
    (exponentText mark 2 k).length ≤ mark.length + 4 := by
  have digits : (decimal k.natAbs).length ≤ 3 := decimal_length few
  have sign : (if k < 0 then "-" else "+").length = 1 := by
    split
    · rfl
    · rfl
  simp only [exponentText, String.length_append, String.length_ofList, List.length_replicate, sign]
  omega

theorem positional_length {digits : List Char} {whole : Int} (low : -3 ≤ whole) (high : whole ≤ 16)
    (few : digits.length ≤ 21) (keepPoint : Bool) :
    (positional digits whole keepPoint).length ≤ 26 := by
  have zero : "0.".length = 2 := rfl
  have point : ".".length = 1 := rfl
  have tail : (if keepPoint = true then ".0" else "").length ≤ 2 := by
    split
    · decide
    · decide
  unfold positional
  split
  · simp only [String.length_append, String.length_ofList, List.length_append, List.length_replicate,
      zero]
    omega
  · dsimp only
    split
    · simp only [String.length_append, String.length_ofList, List.length_append,
        List.length_replicate, List.length_take]
      omega
    · simp only [String.length_append, String.length_ofList, List.length_append,
        List.length_replicate, List.length_take, List.length_drop, point]
      omega

theorem layoutDigits_length {d : Nat} {k : Int} (few : d ≤ 10 ^ 20) (low : -350 ≤ k) (high : k ≤ 350) :
    (layoutDigits plainLayout d k).length ≤ 31 := by
  have digits : (decimal d).toList.length ≤ 21 := by
    rw [String.length_toList]
    exact decimal_length (Nat.lt_of_le_of_lt few (by decide))
  unfold layoutDigits
  dsimp only
  generalize (decimal d).toList = ds at digits
  split
  · rename_i near
    have inside : (-4 : Int) < ds.length + k ∧ (ds.length + k : Int) ≤ 16 := near
    exact Nat.le_trans (positional_length (by omega) inside.2 digits _) (by decide)
  · have exponent := exponentText_length "e" (k := ds.length + k - 1) (by omega)
    rw [String.length_append]
    -- The mantissa gets a point behind its first digit.
    refine Nat.le_trans (Nat.add_le_add (b := 22) ?_ exponent) (by decide)
    split
    · decide
    · simp
    · simp only [String.length_ofList, List.length_cons] at digits ⊢
      omega

theorem floatText_length (x : Float) : (floatText x).length ≤ 32 := by
  unfold floatText Layout.text
  split
  · decide
  · exact Nat.le_trans (signed_length _ _) (by decide)
  · rename_i neg m e opened
    obtain ⟨narrow, low, high⟩ := decode_bounds opened
    split
    · exact Nat.le_trans (signed_length _ _) (by decide)
    · obtain ⟨few, deep, wide⟩ := shortest_bounds narrow low high
      exact Nat.le_trans (signed_length _ _)
        (Nat.succ_le_succ (layoutDigits_length few deep wide))

theorem fraction_log {m : Nat} {e : Int} (narrow : m < 2 ^ 53) (low : -1074 ≤ e) (high : e ≤ 971) :
    (fraction m e).1.log2 < 1025 ∧ 0 < (fraction m e).2 ∧ (fraction m e).2.log2 < 1080 := by
  have one : Nat.log2 1 < 1080 := by decide
  unfold fraction
  split
  · exact ⟨log2_lt_of_lt (by decide) (scaled_lt narrow (by omega)), Nat.one_pos, one⟩
  · have same : Nat.pow 2 (-e).toNat = 2 ^ (-e).toNat := rfl
    have short : m * 2 ^ 0 < 2 ^ 1025 := scaled_lt narrow (by decide)
    refine ⟨log2_lt_of_lt (by decide) (Nat.mul_one m ▸ short), Nat.pow_pos (by decide), ?_⟩
    rw [same, Nat.log2_two_pow]
    omega

theorem roundHalfEven_le (num den : Nat) : roundHalfEven num den ≤ num / den + 1 := by
  unfold roundHalfEven
  dsimp only
  split
  · omega
  · omega

theorem roundTo_le (num den : Nat) (k : Int) :
    roundTo num den k ≤ num * (grid k).2 / (den * (grid k).1) + 1 := by
  unfold roundTo grid
  split
  · rename_i whole
    simpa using roundHalfEven_le num (den * 10 ^ k.toNat)
  · simpa using roundHalfEven_le (num * 10 ^ (-k).toNat) den

theorem significant_bounds {m n : Nat} {e : Int} (some : 0 < n) (narrow : m < 2 ^ 53)
    (low : -1074 ≤ e) (high : e ≤ 971) :
    (significant m e n).digits.length ≤ n + 3 ∧ ((significant m e n).point - 1).natAbs < 1000 := by
  obtain ⟨small, den, fine⟩ := fraction_log narrow low high
  unfold significant
  split
  · simp
  · dsimp only
    generalize (fraction m e).1 = x at small
    generalize (fraction m e).2 = d at den fine
    obtain ⟨least, most⟩ := leadingExponent_bounds x d
    have few := grid_point_lt (k := leadingExponent x d - n + 1) den small fine (n + 2) (by omega)
    have rounded := roundTo_le x d (leadingExponent x d - n + 1)
    split
    · refine ⟨?_, by dsimp only; omega⟩
      rw [String.length_toList]
      have digits := decimal_length (n := Nat.pow 10 (n - 1)) (k := n - 1)
        (Nat.pow_lt_pow_right (by decide) (by omega))
      omega
    · refine ⟨?_, by dsimp only; omega⟩
      rw [String.length_toList]
      refine decimal_length ?_
      calc roundTo x d (leadingExponent x d - n + 1) ≤ 10 ^ (n + 2) := by omega
        _ < 10 ^ (n + 2 + 1) := Nat.pow_lt_pow_right (by decide) (by omega)

theorem withExponent_length (alternate upper : Bool) {s : Significant}
    (near : (s.point - 1).natAbs < 1000) :
    (withExponent alternate upper s).length ≤ s.digits.length + 7 := by
  have mark : (if upper then "E" else "e").length = 1 := by
    split
    · rfl
    · rfl
  have exponent := exponentText_length (if upper then "E" else "e") near
  rw [mark] at exponent
  unfold withExponent
  rcases s.digits with _ | ⟨c, _ | ⟨d, rest⟩⟩
  · simp only [List.length_append, String.length_toList, List.length_cons, List.length_nil]
    omega
  · have point : (if alternate then [c, '.'] else [c]).length ≤ 2 := by
      split
      · exact Nat.le_refl 2
      · exact Nat.le_succ 1
    simp only [List.length_append, String.length_toList, List.length_cons, List.length_nil]
    omega
  · simp only [List.length_append, String.length_toList, List.length_cons]
    omega

theorem atPlace_length (alternate keepPoint : Bool) {s : Significant} {n : Nat} (low : -4 < s.point)
    (high : s.point ≤ n) (few : s.digits.length ≤ n + 4) :
    (atPlace alternate keepPoint s).length ≤ n + 9 := by
  have tail : (if keepPoint then ['.', '0'] else if alternate then ['.'] else []).length ≤ 2 := by
    split
    · decide
    · split
      · decide
      · decide
  unfold atPlace
  dsimp only
  split
  · split
    · rw [List.length_append]
      simp only [List.length_cons, List.length_nil]
      omega
    · simp only [List.length_append, List.length_cons, List.length_nil, List.length_replicate]
      omega
  · split
    · simp only [List.length_append, List.length_replicate, List.length_take]
      omega
    · simp only [List.length_append, List.length_cons, List.length_replicate, List.length_take,
        List.length_drop]
      omega

theorem stripZeros_length (cs : List Char) : (stripZeros cs).length ≤ cs.length := by
  rw [stripZeros, List.length_reverse]
  calc (cs.reverse.dropWhile (· == '0')).length ≤ cs.reverse.length :=
      (List.dropWhile_suffix _).length_le
    _ = cs.length := List.length_reverse

theorem trimmed_bounds (s : Significant) : (trimmed s).digits.length ≤ s.digits.length + 1 ∧
    ((trimmed s).point = s.point ∨ (trimmed s).point = 1) := by
  have shorter := stripZeros_length s.digits
  unfold trimmed
  split
  · exact ⟨Nat.le_add_left 1 _, .inr rfl⟩
  · exact ⟨Nat.le_succ_of_le shorter, .inl rfl⟩

theorem generalText_length (f : FloatForm) {m : Nat} {e : Int} (narrow : m < 2 ^ 53)
    (low : -1074 ≤ e) (high : e ≤ 971) : (generalText f m e).length ≤ f.precision + 13 := by
  obtain ⟨n, same⟩ : ∃ n, max f.precision 1 = n := ⟨_, rfl⟩
  obtain ⟨few, near⟩ := significant_bounds (n := n) (by omega) narrow low high
  unfold generalText
  rw [same]
  dsimp only
  generalize significant m e n = s at few near
  have shown : (if f.alternate then s else trimmed s).digits.length ≤ n + 4 ∧
      ((if f.alternate then s else trimmed s).point = s.point ∨
        (if f.alternate then s else trimmed s).point = 1) := by
    obtain ⟨digits, point⟩ := trimmed_bounds s
    split
    · exact ⟨by omega, .inl rfl⟩
    · exact ⟨by omega, point⟩
  generalize (if f.alternate then s else trimmed s) = t at shown
  obtain ⟨digits, point⟩ := shown
  have kept : 0 ≤ (if f.keepPoint then 1 else 0 : Int) := by
    split
    · exact Int.one_nonneg
    · exact Int.le_refl 0
  generalize (if f.keepPoint then 1 else 0 : Int) = less at kept
  split
  · have text := withExponent_length f.alternate f.upper (s := t) (by omega)
    omega
  · rename_i inside
    have middle : -4 < t.point ∧ t.point ≤ n := by omega
    split
    · have text := atPlace_length f.alternate (t.digits.length ≤ s.point) middle.1 middle.2 digits
      omega
    · have text := atPlace_length f.alternate false middle.1 middle.2 digits
      omega

-- Less than a given power of ten, as far as it is a number.
def IsBelow (k : Nat) (x : Float) : Prop :=
  match Binary64.decode x with
  | .finite _ m e => (fraction m e).1 < (fraction m e).2 * 10 ^ k
  | _ => True

theorem padLeft_length (n : Nat) (cs : List Char) : (padLeft n cs).length = max n cs.length := by
  simp only [padLeft, List.length_append, List.length_replicate]
  omega

theorem grid_neg (k : Nat) : grid (-k) = (1, 10 ^ k) := by
  unfold grid
  split
  · obtain rfl : k = 0 := by omega
    rfl
  · simp

theorem fixedText_length (alternate : Bool) {m k : Nat} {e : Int} (places : Nat)
    (few : (fraction m e).1 < (fraction m e).2 * 10 ^ k) :
    (fixedText alternate m e places).length ≤ k + places + 2 := by
  have below : roundTo (fraction m e).1 (fraction m e).2 (-places) < 10 ^ (k + places + 1) := by
    have rounded := roundTo_le (fraction m e).1 (fraction m e).2 (-places)
    simp only [grid_neg, Nat.mul_one] at rounded
    have scaled : (fraction m e).1 * 10 ^ places / (fraction m e).2 < 10 ^ (k + places) := by
      refine Nat.div_lt_of_lt_mul ?_
      rw [Nat.pow_add, ← Nat.mul_assoc]
      exact Nat.mul_lt_mul_of_pos_right few (Nat.pow_pos (by decide))
    have more : 10 ^ (k + places) < 10 ^ (k + places + 1) :=
      Nat.pow_lt_pow_right (by decide) (Nat.lt_succ_self _)
    omega
  have digits := decimal_length below
  unfold fixedText
  dsimp only
  generalize decimal (roundTo (fraction m e).1 (fraction m e).2 (-places)) = text at digits
  have padded := padLeft_length (places + 1) text.toList
  rw [String.length_toList] at padded
  generalize padLeft (places + 1) text.toList = ds at padded
  rw [List.length_append, List.length_take]
  split
  · rw [List.length_nil]
    omega
  · rw [List.length_cons, List.length_drop]
    omega

theorem formText_length {f : FloatForm} {x : Float} (style : f.style = .exponent ∨ f.style = .general ∨
    f.style = .fixed ∧ IsBelow 24 x) : (f.text x).length ≤ f.precision + 27 := by
  unfold FloatForm.text
  split
  · split
    · exact Nat.le_add_left_of_le (by decide)
    · exact Nat.le_add_left_of_le (by decide)
  · split
    · exact Nat.le_trans (signed_length _ _) (Nat.le_add_left_of_le (by decide))
    · exact Nat.le_trans (signed_length _ _) (Nat.le_add_left_of_le (by decide))
  · rename_i neg m e opened
    obtain ⟨narrow, low, high⟩ := decode_bounds opened
    refine Nat.le_trans (signed_length _ _) (Nat.succ_le_succ ?_)
    rw [String.length_ofList]
    unfold finiteText
    rcases style with same | same | ⟨same, below⟩
    · rw [same]
      obtain ⟨few, near⟩ := significant_bounds (n := f.precision + 1) (by omega) narrow low high
      have text := withExponent_length f.alternate f.upper near
      dsimp only
      omega
    · rw [same]
      have text := generalText_length f narrow low high
      dsimp only
      omega
    · rw [same]
      rw [IsBelow, opened] at below
      have text := fixedText_length f.alternate f.precision below
      dsimp only
      omega

end Number

namespace Text

-- What a quoted text shows as it is.
def isPlainChar (c : Char) : Bool := c != '\\' && isPrintable c

-- Nothing in the text is written as an escape, whichever quotes are put around it.
def isPlain (s : String) : Bool :=
  s.toList.all isPlainChar && !(s.toList.contains '\'' && s.toList.contains '"')

theorem namedEscape_length {c : Char} {e : List Char} (named : namedEscape c = some e) :
    e.length = 2 ∧ isPrintable c = false := by
  unfold namedEscape at named
  split at named
  · cases named
    exact ⟨rfl, by decide⟩
  · cases named
    exact ⟨rfl, by decide⟩
  · cases named
    exact ⟨rfl, by decide⟩
  · cases named

theorem codeEscape_length (code : Nat) : 2 ≤ (codeEscape code).length := by
  unfold codeEscape
  split
  · simp
  split
  · simp
  · simp

theorem quoteChar_plain {quote c : Char} (other : c ≠ quote) (plain : isPlainChar c) :
    quoteChar quote c = [c] := by
  simp only [isPlainChar, Bool.and_eq_true, bne_iff_ne, ne_eq] at plain
  unfold quoteChar
  rw [if_neg (by simp [other, plain.1])]
  cases named : namedEscape c with
  | none => simp [plain.2]
  | some e =>
    have unprintable := (namedEscape_length named).2
    rw [plain.2] at unprintable
    cases unprintable

-- Anything else is written as an escape.
theorem quoteChar_escaped {quote c : Char} (escaped : c = quote ∨ isPlainChar c = false) :
    2 ≤ (quoteChar quote c).length := by
  unfold quoteChar
  split
  · exact Nat.le_refl 2
  · rename_i kept
    simp only [Bool.or_eq_true, beq_iff_eq, not_or] at kept
    cases named : namedEscape c with
    | some e => exact Nat.le_of_eq (namedEscape_length named).1.symm
    | none =>
      have unprintable : isPrintable c = false := by
        rcases escaped with same | special
        · exact absurd same kept.1
        · simpa [isPlainChar, kept.2] using special
      simp only [unprintable]
      exact codeEscape_length c.toNat

theorem one_le_quoteChar (quote c : Char) : 1 ≤ (quoteChar quote c).length := by
  by_cases escaped : c = quote ∨ isPlainChar c = false
  · exact Nat.le_trans (by decide) (quoteChar_escaped escaped)
  · simp only [not_or, Bool.not_eq_false] at escaped
    rw [quoteChar_plain escaped.1 escaped.2]
    exact Nat.le_refl 1

theorem quote_length (s : String) :
    (quote s).length = (s.toList.flatMap (quoteChar (quoteFor s.toList))).length + 2 := by
  unfold quote
  simp only [String.length_ofList, List.cons_append, List.length_cons, List.length_append,
    List.length_nil]

-- A quote in the text is escaped if the other one stands there too.
theorem quoteFor_mem (cs : List Char) :
    quoteFor cs ∈ cs ↔ '\'' ∈ cs ∧ '"' ∈ cs := by
  unfold quoteFor
  by_cases single : '\'' ∈ cs
  · by_cases double : '"' ∈ cs
    · simp [single, double]
    · simp [single, double]
  · simp [single]

theorem quote_plain {s : String} (plain : isPlain s) : (quote s).length = s.length + 2 := by
  simp only [isPlain, Bool.and_eq_true, List.all_eq_true, Bool.not_eq_true',
    List.contains_iff_mem, ← Bool.not_eq_true] at plain
  obtain ⟨each, quotes⟩ := plain
  have absent : quoteFor s.toList ∉ s.toList := by
    rw [quoteFor_mem]
    exact quotes
  have kept : ∀ c ∈ s.toList, quoteChar (quoteFor s.toList) c = [c] := by
    intro c inside
    refine quoteChar_plain ?_ (each c inside)
    rintro rfl
    exact absent inside
  have same : s.toList.flatMap (quoteChar (quoteFor s.toList)) = s.toList := by
    rw [List.flatMap_congr kept, List.flatMap_singleton']
  rw [quote_length, same, String.length_toList]

theorem flatMap_length_le (q : Char) (cs : List Char) :
    cs.length ≤ (cs.flatMap (quoteChar q)).length := by
  induction cs with
  | nil => exact Nat.le_refl 0
  | cons c rest ih =>
    have one := one_le_quoteChar q c
    simp only [List.flatMap_cons, List.length_append, List.length_cons]
    omega

theorem flatMap_length_lt {q c : Char} {cs : List Char} (inside : c ∈ cs)
    (escaped : c = q ∨ isPlainChar c = false) : cs.length < (cs.flatMap (quoteChar q)).length := by
  obtain ⟨before, after, rfl⟩ := List.append_of_mem inside
  have front := flatMap_length_le q before
  have back := flatMap_length_le q after
  have two := quoteChar_escaped escaped
  simp only [List.flatMap_append, List.flatMap_cons, List.length_append, List.length_cons]
  omega

theorem quote_escaped {s : String} (escaped : isPlain s = false) :
    s.length + 2 < (quote s).length := by
  have found : ∃ c ∈ s.toList, c = quoteFor s.toList ∨ isPlainChar c = false := by
    simp only [isPlain, Bool.and_eq_false_iff, List.all_eq_false, Bool.not_eq_false',
      Bool.and_eq_true, List.contains_iff_mem, Bool.not_eq_true] at escaped
    rcases escaped with ⟨c, inside, special⟩ | both
    · exact ⟨c, inside, .inr special⟩
    · exact ⟨quoteFor s.toList, (quoteFor_mem _).mpr both, .inl rfl⟩
  obtain ⟨c, inside, written⟩ := found
  have longer := flatMap_length_lt inside written
  rw [quote_length]
  rw [String.length_toList] at longer
  omega

end Text
end ScriptArena
