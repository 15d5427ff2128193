import Mathlib.Algebra.Ring.Int.Defs
import Mathlib.Algebra.Ring.Nat
import ScriptArena.Proofs.Run.Operations

namespace ScriptArena

namespace Number

theorem bitLength_le_iff {n k : Nat} : bitLength n ≤ k ↔ n < 2 ^ k := by
  unfold bitLength
  split
  · rename_i zero
    subst zero
    exact iff_of_true (Nat.zero_le k) (Nat.two_pow_pos k)
  · rename_i positive
    rw [Nat.succ_le_iff, Nat.log2_lt positive]

theorem bitLength_mono {m n : Nat} (less : m ≤ n) : bitLength m ≤ bitLength n :=
  bitLength_le_iff.mpr (Nat.lt_of_le_of_lt less (bitLength_bound n))

theorem bitLength_add (m n : Nat) : bitLength (m + n) ≤ 1 + max (bitLength m) (bitLength n) := by
  have left : m < 2 ^ max (bitLength m) (bitLength n) :=
    bitLength_le_iff.mp (Nat.le_max_left _ _)
  have right : n < 2 ^ max (bitLength m) (bitLength n) :=
    bitLength_le_iff.mp (Nat.le_max_right _ _)
  rw [bitLength_le_iff, Nat.pow_add, Nat.pow_one]
  omega

theorem bitLength_mul (m n : Nat) : bitLength (m * n) ≤ bitLength m + bitLength n := by
  rw [bitLength_le_iff, Nat.pow_add]
  exact Nat.mul_lt_mul'' (bitLength_bound m) (bitLength_bound n)

theorem bitLength_pow (m : Nat) {e : Nat} (positive : 0 < e) :
    bitLength (m ^ e) ≤ bitLength m * e := by
  rw [bitLength_le_iff, Nat.pow_mul]
  exact Nat.pow_lt_pow_left (bitLength_bound m) (Nat.ne_of_gt positive)

end Number

-- The bits of an integer without its sign.
def bits (n : Int) : Nat := Number.bitLength n.natAbs

-- A quotient that is rounded down is no longer than what is divided.
theorem natAbs_fdiv_le (x y : Int) : (x.fdiv y).natAbs ≤ x.natAbs := by
  rcases Int.le_total 0 y with up | down
  · rw [Int.fdiv_eq_ediv_of_nonneg x up]
    exact Int.natAbs_ediv_le_natAbs x y
  · have turned : 0 ≤ -y := by omega
    rw [← Int.neg_fdiv_neg, Int.fdiv_eq_ediv_of_nonneg _ turned, ← Int.natAbs_neg x]
    exact Int.natAbs_ediv_le_natAbs (-x) (-y)

-- A remainder is smaller than what it is divided by, whatever the signs.
theorem natAbs_fmod_lt (x : Int) {y : Int} (nonzero : y ≠ 0) : (x.fmod y).natAbs < y.natAbs := by
  have low := Int.emod_nonneg x nonzero
  have high := Int.emod_lt x nonzero
  rw [Int.fmod_eq_emod]
  split
  · omega
  · rename_i apart
    have uneven : x % y ≠ 0 := fun even => apart (.inr (Int.dvd_of_emod_eq_zero even))
    omega

theorem bits_add (x y : Int) : bits (x + y) ≤ 1 + max (bits x) (bits y) :=
  Nat.le_trans (Number.bitLength_mono (Int.natAbs_add_le x y)) (Number.bitLength_add _ _)

theorem bits_sub (x y : Int) : bits (x - y) ≤ 1 + max (bits x) (bits y) :=
  Nat.le_trans (Number.bitLength_mono (Int.natAbs_sub_le x y)) (Number.bitLength_add _ _)

theorem bits_mul (x y : Int) : bits (x * y) ≤ bits x + bits y := by
  unfold bits
  rw [Int.natAbs_mul]
  exact Number.bitLength_mul _ _

theorem bits_pow (x : Int) {e : Nat} (positive : 0 < e) : bits (x ^ e) ≤ bits x * e := by
  unfold bits
  rw [Int.natAbs_pow]
  exact Number.bitLength_pow _ positive

-- Which integer comes of an operation on two integers, under ceilings that let it pass.
inductive Computes (l : Limits) : Script.Operator → Int → Int → Int → Prop where
  | add : Computes l .add x y (x + y)
  | sub : Computes l .sub x y (x - y)
  | mul (room : bits x + bits y ≤ l.maxIntBits) : Computes l .mul x y (x * y)
  | floorDiv (nonzero : y ≠ 0) : Computes l .floorDiv x y (x.fdiv y)
  | mod (nonzero : y ≠ 0) : Computes l .mod x y (x.fmod y)
  | pow (upward : 0 ≤ y) (grows : l.maxExponent < y.natAbs → x.natAbs ≤ 1)
      (room : 0 < y → bits x * y ≤ l.maxIntBits) : Computes l .pow x y (x ^ y.toNat)

variable {l : Limits} {op : Script.Operator} {x y n : Int}

theorem bits_computes (computes : Computes l op x y n) :
    (bits n : Int) ≤ max l.maxIntBits (1 + max (bits x) (bits y) : Nat) := by
  cases computes with
  | add => exact Int.le_trans (Int.ofNat_le.mpr (bits_add x y)) (Int.le_max_right _ _)
  | sub => exact Int.le_trans (Int.ofNat_le.mpr (bits_sub x y)) (Int.le_max_right _ _)
  | mul room =>
    have product := bits_mul x y
    omega
  | floorDiv =>
    have shorter : bits (x.fdiv y) ≤ bits x := Number.bitLength_mono (natAbs_fdiv_le x y)
    omega
  | mod nonzero =>
    have smaller := natAbs_fmod_lt x nonzero
    have shorter : bits (x.fmod y) ≤ bits y := Number.bitLength_mono (Nat.le_of_lt smaller)
    omega
  | pow upward grows room =>
    rcases Nat.eq_zero_or_pos y.toNat with none | some
    · have one : bits (x ^ y.toNat) = 1 := by
        rw [none, Int.pow_zero]
        rfl
      omega
    · have power : (bits (x ^ y.toNat) : Int) ≤ (bits x * y.toNat : Nat) :=
        Int.ofNat_le.mpr (bits_pow x some)
      have within := room (by omega)
      rw [Int.natCast_mul, Int.toNat_of_nonneg upward] at power
      omega

theorem sequenceLength_int {h : Heap} {v : Value} (int : v.int? = some x) :
    Guard.sequenceLength? h v = none := by
  cases v with
  | int | bool => rfl
  | _ => cases int

theorem isReal_int {v : Value} (int : v.int? = some x) : v.isReal = true := by
  cases v with
  | int | bool => rfl
  | _ => cases int

theorem exceedsOne_int {v : Value} (int : v.int? = some x) :
    Guard.exceedsOne v = decide (1 < x.natAbs) := by
  cases v with
  | int | bool =>
    cases int
    rfl
  | _ => cases int

theorem meet_int {a b : Value} (left : a.int? = some x) (right : b.int? = some y) :
    Numbers.meet? a b = some (.ok (.ints x y)) := by
  unfold Numbers.meet?
  rw [left, right]

theorem complexPower_int {u w : Number.Complex} {v : Value} (powered : complexPower u w = .ok v) :
    v.int? = none := by
  unfold complexPower at powered
  split at powered
  · cases powered
    rfl
  · cases powered
  · cases powered

theorem floatPower_int {u w : Float} {v : Value} (powered : floatPower u w = .ok v) :
    v.int? = none := by
  revert powered
  fun_cases floatPower u w
  all_goals intro powered
  all_goals first
    | exact complexPower_int powered
    | cases powered
  all_goals rfl

theorem power_guard {a b : Value} (left : a.int? = some x) (right : b.int? = some y) :
    Guard.power l a b = .ok () ↔
      (l.maxExponent < y.natAbs → x.natAbs ≤ 1) ∧ (0 < y → bits x * y ≤ l.maxIntBits) := by
  unfold Guard.power
  simp only [left, right, isReal_int left, exceedsOne_int left, Bool.not_true, Bool.false_eq_true,
    if_false, decide_eq_true_eq]
  by_cases large : l.maxExponent < y.natAbs ∧ 1 < x.natAbs
  · have refused : ¬ (l.maxExponent < y.natAbs → x.natAbs ≤ 1) := by omega
    rw [if_pos large]
    cases Guard.shownNumber b with
    | _ => exact ⟨nofun, fun within => absurd within.1 refused⟩
  · rw [if_neg large]
    by_cases long : 0 < y ∧ l.maxIntBits < bits x * y
    · exact (if_pos long).symm ▸ ⟨nofun, fun within => by omega⟩
    · exact (if_neg long).symm ▸ iff_of_true rfl (by omega)

theorem product_guard {h : Heap} {a b : Value} (left : a.int? = some x) (right : b.int? = some y) :
    Guard.product h l a b = .ok () ↔ bits x + bits y ≤ l.maxIntBits := by
  rw [Guard.product, sequenceLength_int left, sequenceLength_int right, left, right]
  dsimp only
  by_cases long : l.maxIntBits < (bits x : Int) + bits y
  · exact (if_pos long).symm ▸ ⟨nofun, fun room => absurd room (Int.not_le.mpr long)⟩
  · exact (if_neg long).symm ▸ iff_of_true rfl (Int.not_lt.mp long)

-- What neither multiplies nor raises to a power is not refused.
theorem binary_unguarded {h : Heap} {a b : Value} (left : a.int? = some x)
    (mul : op ≠ .mul) (pow : op ≠ .pow) : Guard.binary h l op a b = .ok () := by
  cases op with
  | mul => exact absurd rfl mul
  | pow => exact absurd rfl pow
  | mod =>
    cases a with
    | str s => cases left
    | _ => rfl
  | add => rw [Guard.binary, Guard.join, sequenceLength_int left]
  | _ => rfl

-- The rules for integers; only quotients that are not rounded, and powers to a negative exponent,
-- leave them.
def integerRule (op : Script.Operator) (a b : Value) (x y : Int) : Except Trouble Value :=
  match op with
  | .add => .ok (.int (x + y))
  | .sub => .ok (.int (x - y))
  | .mul => .ok (.int (x * y))
  | .div => trueQuotient x y
  | .floorDiv => if y = 0 then .error (.failure .integerDivision) else .ok (.int (x.fdiv y))
  | .mod => if y = 0 then .error (.failure .integerModulo) else .ok (.int (x.fmod y))
  | .pow => intPower x y
  | op => .error (Value.badOperands op a b)

theorem binary_integers {h : Heap} {a b : Value} (left : a.int? = some x) (right : b.int? = some y) :
    Value.binary h op a b = (integerRule op a b x y).map Made.value := by
  have meets := meet_int left right
  have rounded (r : Except Trouble Value) : (do return Made.value (← r)) = r.map Made.value := by
    cases r with
    | _ => rfl
  cases op with
  | add | sub | mul =>
    rw [Value.binary, meets]
    rfl
  | div | pow =>
    change Value.numeric _ _ a b = _
    rw [Value.numeric, meets]
    exact rounded _
  | floorDiv =>
    change Value.numericIf _ _ a b = _
    rw [Value.numericIf, meets]
    exact rounded _
  | mod =>
    have number : Value.modulo h a b = Value.numericIf .mod Numbers.mod? a b := by
      cases a with
      | int | bool => rfl
      | _ => cases left
    change Value.modulo h a b = _
    rw [number, Value.numericIf, meets]
    exact rounded _
  | _ => rfl

theorem trueQuotient_int {v : Value} (divided : trueQuotient x y = .ok v) : v.int? = none := by
  unfold trueQuotient at divided
  split at divided
  · cases divided
  · dsimp only at divided
    split at divided
    · cases divided
    · cases divided
      rfl

namespace Run

variable {m : Machine} {a b : Value}

-- An integer needs no number.
theorem keep_int {v : Value} (int : v.int? = some n) : keep (.value v) l m = .ok v m := by
  cases v with
  | int | bool => rfl
  | _ => cases int

theorem kept_int {v w : Value} {m' : Machine} (kept : keep (.value v) l m = .ok w m') :
    w.int? = v.int? := by
  cases kept
  unfold Heap.own
  split
  · cases v with
    | _ => rfl
  · rfl

theorem operate_int (left : a.int? = some x) (right : b.int? = some y) :
    (∃ v m', operate op a b l m = .ok v m' ∧ v.int? = some n) ↔
      Guard.binary m.heap l op a b = .ok () ∧
        ∃ v, integerRule op a b x y = .ok v ∧ v.int? = some n := by
  simp only [operate_iff, binary_integers left right]
  constructor
  · rintro ⟨v, m', ⟨passed, made, built, kept⟩, int⟩
    cases ruled : integerRule op a b x y with
    | error e =>
      rw [ruled] at built
      cases built
    | ok w =>
      rw [ruled] at built
      cases built
      exact ⟨passed, w, rfl, kept_int kept ▸ int⟩
  · rintro ⟨passed, v, ruled, int⟩
    exact ⟨v, m, ⟨passed, .value v, ruled ▸ rfl, keep_int int⟩, int⟩

-- An operation gives an integer if it is the exact result and the ceilings let it pass.
theorem operate_computes (left : a.int? = some x) (right : b.int? = some y) :
    (∃ v m', operate op a b l m = .ok v m' ∧ v.int? = some n) ↔ Computes l op x y n := by
  rw [operate_int left right]
  constructor
  · rintro ⟨passed, v, ruled, int⟩
    cases op with
    | add | sub =>
      cases ruled
      cases int
      constructor
    | mul =>
      cases ruled
      cases int
      exact .mul ((product_guard left right).mp passed)
    | div => cases int.symm.trans (trueQuotient_int ruled)
    | floorDiv | mod =>
      dsimp only [integerRule] at ruled
      split at ruled
      · cases ruled
      · rename_i nonzero
        cases ruled
        cases int
        constructor
        exact nonzero
    | pow =>
      change intPower x y = .ok v at ruled
      unfold intPower at ruled
      split at ruled
      · rename_i upward
        cases ruled
        cases int
        obtain ⟨grows, room⟩ := (power_guard left right).mp passed
        exact .pow upward grows room
      · obtain ⟨_, _, ruled⟩ := bind_eq_ok.mp ruled
        obtain ⟨_, _, ruled⟩ := bind_eq_ok.mp ruled
        cases int.symm.trans (floatPower_int ruled)
    | _ => cases ruled
  · intro computes
    cases computes with
    | add | sub => exact ⟨binary_unguarded left nofun nofun, _, rfl, rfl⟩
    | mul room => exact ⟨(product_guard left right).mpr room, _, rfl, rfl⟩
    | floorDiv nonzero | mod nonzero =>
      exact ⟨binary_unguarded left nofun nofun, _, if_neg nonzero, rfl⟩
    | pow upward grows room =>
      exact ⟨(power_guard left right).mpr ⟨grows, room⟩, _, if_pos upward, rfl⟩

-- The value is an integer of at most so many bits.
def Narrow (most : Nat) (v : Value) : Prop := ∃ n, v.int? = some n ∧ bits n ≤ most

-- Integers made one after the other, the last one first. Each operation may use all that is given
-- and all that was made before it, whatever else happened to the machine in between.
inductive Chain (l : Limits) (given : List Value) : List Value → Prop where
  | start : Chain l given []
  | next {made : List Value} {op : Script.Operator} {a b v : Value} {m m' : Machine} {n : Int}
      (prior : Chain l given made) (left : a ∈ made ++ given) (right : b ∈ made ++ given)
      (ran : operate op a b l m = .ok v m') (int : v.int? = some n) : Chain l given (v :: made)

theorem Narrow.wider {most more : Nat} {v : Value} (narrow : Narrow most v) (less : most ≤ more) :
    Narrow more v := by
  obtain ⟨n, int, short⟩ := narrow
  exact ⟨n, int, Nat.le_trans short less⟩

theorem operate_narrow {m m' : Machine} {a b v : Value} {most : Nat} (ceiling : l.maxIntBits ≤ most)
    (left : Narrow most a) (right : Narrow most b) (ran : operate op a b l m = .ok v m')
    (int : v.int? = some n) : Narrow (most + 1) v := by
  obtain ⟨x, intLeft, shortLeft⟩ := left
  obtain ⟨y, intRight, shortRight⟩ := right
  have bounded := bits_computes ((operate_computes intLeft intRight).mp ⟨v, m', ran, int⟩)
  exact ⟨n, int, by omega⟩

theorem chain_narrow {given made : List Value} {most : Nat} (ceiling : l.maxIntBits ≤ most)
    (narrow : ∀ v ∈ given, Narrow most v) (chain : Chain l given made) :
    ∀ v ∈ made, Narrow (most + made.length) v := by
  induction chain with
  | start => exact nofun
  | @next made op a b v m m' n prior left right ran int ih =>
    have operand : ∀ w ∈ made ++ given, Narrow (most + made.length) w := by
      intro w member
      rcases List.mem_append.mp member with earlier | first
      · exact ih w earlier
      · exact (narrow w first).wider (Nat.le_add_right _ _)
    intro w member
    rcases List.mem_cons.mp member with rfl | earlier
    · have higher : l.maxIntBits ≤ (most + made.length : Nat) := by omega
      exact operate_narrow higher (operand a left) (operand b right) ran int
    · exact (ih w earlier).wider (by simp)

-- An integer that comes of two integers is exact, and has at most one bit more than the longer of
-- them, or no more than the ceiling allows. A chain of operations adds at most a bit for each.
theorem integers_bounded (l : Limits) :
    (∀ op a b x y m v m' n, a.int? = some x → b.int? = some y → operate op a b l m = .ok v m' →
        v.int? = some n → (bits n : Int) ≤ max l.maxIntBits (1 + max (bits x) (bits y) : Nat)) ∧
      (∀ op a b x y m n, a.int? = some x → b.int? = some y →
        ((∃ v m', operate op a b l m = .ok v m' ∧ v.int? = some n) ↔ Computes l op x y n)) ∧
      ∀ (most : Nat) (given made : List Value), l.maxIntBits ≤ most →
        (∀ v ∈ given, Narrow most v) → Chain l given made →
        ∀ v ∈ made, Narrow (most + made.length) v := by
  refine ⟨?_, ?_, ?_⟩
  · intro op a b x y m v m' n left right ran int
    exact bits_computes ((operate_computes left right).mp ⟨v, m', ran, int⟩)
  · intro op a b x y m n left right
    exact operate_computes left right
  · intro most given made ceiling narrow chain
    exact chain_narrow ceiling narrow chain

def tenBits : Limits := { maxIntBits := 10 }

-- The fifth power of minus two, and five less than that.
theorem fifthPower_bounded :
    operate .pow (.int (-2)) (.int 5) tenBits {} = .ok (.int (-32)) {} ∧
      operate .sub (.int (-32)) (.int 5) tenBits {} = .ok (.int (-37)) {} ∧
      (bits (-32) : Int) ≤ max tenBits.maxIntBits (1 + max (bits (-2)) (bits 5) : Nat) ∧
      Computes tenBits .pow (-2) 5 (-32) ∧ Narrow (10 + 2) (.int (-37)) := by
  have power : operate .pow (.int (-2)) (.int 5) tenBits {} = .ok (.int (-32)) {} := by rfl
  have less : operate .sub (.int (-32)) (.int 5) tenBits {} = .ok (.int (-37)) {} := by rfl
  obtain ⟨bounded, exactly, chains⟩ := integers_bounded tenBits
  have given : ∀ v ∈ [Value.int (-2), .int 5], Narrow 10 v := by
    intro v member
    simp only [List.mem_cons, List.not_mem_nil, or_false] at member
    rcases member with rfl | rfl
    · exact ⟨-2, rfl, by decide⟩
    · exact ⟨5, rfl, by decide⟩
  have chain : Chain tenBits [.int (-2), .int 5] [.int (-37), .int (-32)] :=
    .next (.next .start (by simp) (by simp) power rfl) (by simp) (by simp) less rfl
  exact ⟨power, less, bounded _ _ _ _ _ _ _ _ _ rfl rfl power rfl,
    (exactly _ _ _ _ _ _ _ rfl rfl).mp ⟨_, _, power, rfl⟩,
    chains 10 _ _ (Int.le_refl _) given chain _ List.mem_cons_self⟩

end Run
end ScriptArena
