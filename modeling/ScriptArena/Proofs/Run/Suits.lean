import ScriptArena.Proofs.Run.TextSizes
import ScriptArena.Proofs.Value.Templates

namespace ScriptArena
namespace Template

-- Without the blanks and zeros that fill it up, what a directive shows of a value is no longer than
-- the value weighs, its precision and two characters of the directive itself.
def Suits (h : Heap) (d : Directive) (v : Value) : Prop :=
  ∀ index shown n, showValue h .text d index v = .ok shown → Guard.Weighs h [v] n →
    (shown.padded { d with width := none }).length ≤ n + d.precision.getD 0 + 2

theorem bare_length (d : Directive) (shown : Shown) :
    (shown.padded { d with width := none }).length ≤
      (if shown.numeric then 1 else 0) + shown.marker.length + shown.body.length := by
  have sign : (if !shown.numeric then [] else if shown.negative then ['-']
      else if d.sign then ['+'] else if d.blank then [' '] else []).length ≤
      if shown.numeric then 1 else 0 := by
    cases shown.numeric with
    | false => exact Nat.le_refl 0
    | true =>
      simp only [Bool.not_true, Bool.false_eq_true, if_false, if_true]
      split
      · exact Nat.le_refl 1
      · split
        · exact Nat.le_refl 1
        · split
          · exact Nat.le_refl 1
          · exact Nat.zero_le 1
  simp only [Shown.padded, Option.getD_none, Nat.zero_sub, List.replicate_zero, List.append_nil,
    List.nil_append, ite_self, List.length_append]
  omega

theorem cut_length (d : Directive) (s : String) :
    ((Shown.cut d s.toList).padded { d with width := none }).length ≤ s.length := by
  have bare := bare_length d (.cut d s.toList)
  have shorter : (Shown.cut d s.toList).body.length ≤ s.length := by
    rw [← String.length_toList]
    simp only [Shown.cut, Shown.plain]
    split
    · exact List.length_take_le' _ _
    · exact Nat.le_refl _
  have plain : (Shown.cut d s.toList).numeric = false ∧ (Shown.cut d s.toList).marker = [] := ⟨rfl, rfl⟩
  rw [plain.1, plain.2] at bare
  simp only [Bool.false_eq_true, if_false, List.length_nil] at bare
  omega

theorem showChar_length {v : Value} {shown : Shown} (shows : showChar v = .ok shown) (d : Directive) :
    (shown.padded { d with width := none }).length ≤ 1 := by
  have single (c : Char) : ((Shown.plain [c]).padded { d with width := none }).length ≤ 1 :=
    bare_length d (.plain [c])
  unfold showChar at shows
  split at shows
  · split at shows
    · cases shows
      exact single _
    · cases shows
  · split at shows
    · cases shows
    · split at shows
      · cases shows
        exact single _
      · cases shows

theorem digitsOf_length {base k : Nat} {n : Int} {digits : List Char}
    (few : n.natAbs < base ^ (k + 1)) (made : FormatSpec.digitsOf base n = .ok digits) :
    digits.length ≤ k + 1 := by
  unfold FormatSpec.digitsOf at made
  split at made
  · rename_i ten
    subst ten
    unfold decimalText at made
    split at made
    · cases made
      have plain : Number.intText n.natAbs = Number.decimal n.natAbs := by
        have positive : decide ((n.natAbs : Int) < 0) = false := decide_eq_false (by omega)
        rw [Number.intText, positive, Int.natAbs_natCast]
        rfl
      rw [String.length_toList, plain]
      exact Number.decimal_length few
    · cases made
  · cases made
    rw [String.length_toList]
    exact Number.numeral_length few

-- The bound holds for any number that has at most `k + 1` digits in every base.
theorem showInteger_length {d : Directive} {v : Value} {shown : Shown} {k : Nat}
    (few : ∀ n, wholeNumber d.kind v = .ok n → ∀ base, 8 ≤ base → n.natAbs < base ^ (k + 1))
    (shows : showInteger d v = .ok shown) :
    (shown.padded { d with width := none }).length ≤ k + d.precision.getD 0 + 4 := by
  have bare := bare_length d shown
  obtain ⟨n, whole, shows⟩ := bind_eq_ok.mp shows
  dsimp only at shows
  have wide : 8 ≤ if d.kind = 'o' then 8 else if isBased d.kind then 16 else 10 := by
    split
    · decide
    · split
      · decide
      · decide
  generalize (if d.kind = 'o' then 8 else if isBased d.kind then 16 else 10) = base at wide shows
  obtain ⟨digits, made, shows⟩ := bind_eq_ok.mp shows
  cases shows
  have count := digitsOf_length (few n whole base wide) made
  have upper : (if d.kind = 'X' then digits.map Char.toUpper else digits).length = digits.length := by
    split
    · exact List.length_map _
    · rfl
  have marker : (if d.alternate && isBased d.kind then ['0', d.kind] else []).length ≤ 2 := by
    split
    · exact Nat.le_refl 2
    · exact Nat.zero_le 2
  simp only [Number.padLeft_length, upper, if_true] at bare
  omega

-- The number that a directive for integers shows.
theorem wholeNumber_int {kind : Char} {v : Value} {n m : Int} (same : v.int? = some m)
    (whole : wholeNumber kind v = .ok n) : n = m := by
  simp only [wholeNumber, same] at whole
  cases whole
  rfl

theorem wholeNumber_float {kind : Char} {x : FloatObject} {k : Nat} {n : Int}
    (below : Number.IsBelow k x.value) (whole : wholeNumber kind (.float x) = .ok n) : n.natAbs < 10 ^ k := by
  have found : Number.Binary64.truncate? x.value = some n := by
    simp only [wholeNumber, Value.int?] at whole
    split at whole
    · cases whole
    · split at whole
      · rename_i same
        cases whole
        exact same
      · split at whole
        · cases whole
        · cases whole
  unfold Number.Binary64.truncate? at found
  split at found
  · rename_i neg m e opened
    rw [Number.IsBelow, opened] at below
    have small : (if 0 ≤ e then m * Nat.pow 2 e.toNat else m / Nat.pow 2 (-e).toNat) < 10 ^ k := by
      dsimp only [Number.fraction] at below
      split
      · rename_i whole
        rwa [if_pos whole, Nat.one_mul] at below
      · rename_i broken
        rw [if_neg broken] at below
        exact Nat.div_lt_of_lt_mul below
    cases neg with
    | false =>
      cases found
      exact small
    | true =>
      cases found
      rw [if_pos rfl, Int.natAbs_neg]
      exact small
  · cases found

theorem numberSize_le {h : Heap} {v : Value} {n : Int} (same : v.int? = some n) :
    Guard.numberSize n ≤ Guard.ownSize h v := by
  cases v with
  | int m =>
    cases same
    exact Nat.le_refl _
  | bool b =>
    cases same
    have small : Guard.numberSize (if b then 1 else 0) ≤ 5 := by
      cases b with
      | false | true => decide
    exact small
  | _ => cases same

theorem ofFloatText_length (text : String) :
    ((FormatSpec.Parts.ofFloatText text).digits ++ (FormatSpec.Parts.ofFloatText text).rest).length ≤
      text.length := by
  unfold FormatSpec.Parts.ofFloatText
  dsimp only
  rw [List.takeWhile_append_dropWhile, ← String.length_toList]
  split
  · rw [List.length_drop]
    exact Nat.sub_le _ _
  · exact Nat.le_refl _

theorem showFloat_form {medium : Medium} {d : Directive} {x : FloatObject} {shown : Shown}
    (below : d.kind.toLower = 'f' → Number.IsBelow 24 x.value)
    (shows : showFloat medium d (.float x) = .ok shown) :
    ∃ form : Number.FloatForm, form.precision = d.precision.getD 6 ∧
      (form.style = .exponent ∨ form.style = .general ∨
        form.style = .fixed ∧ Number.IsBelow 24 x.value) ∧
      shown = ⟨true, (FormatSpec.Parts.ofFloatText (form.text x.value)).negative, [],
        (FormatSpec.Parts.ofFloatText (form.text x.value)).digits ++
          (FormatSpec.Parts.ofFloatText (form.text x.value)).rest⟩ := by
  unfold showFloat at shows
  dsimp only [Numbers.realPart, bind, Except.bind, pure, Except.pure] at shows
  cases shows
  refine ⟨_, rfl, ?_, rfl⟩
  dsimp only
  split
  · exact .inl rfl
  · split
    · rename_i fixed
      exact .inr (.inr ⟨rfl, below fixed⟩)
    · exact .inr (.inl rfl)

theorem showFloat_length {medium : Medium} {d : Directive} {x : FloatObject} {shown : Shown}
    (below : d.kind.toLower = 'f' → Number.IsBelow 24 x.value)
    (shows : showFloat medium d (.float x) = .ok shown) :
    (shown.padded { d with width := none }).length ≤ d.precision.getD 0 + 34 := by
  obtain ⟨form, precision, style, rfl⟩ := showFloat_form below shows
  have text := Number.formText_length style
  have digits := ofFloatText_length (form.text x.value)
  have bare := bare_length d ⟨true, (FormatSpec.Parts.ofFloatText (form.text x.value)).negative, [],
    (FormatSpec.Parts.ofFloatText (form.text x.value)).digits ++
      (FormatSpec.Parts.ofFloatText (form.text x.value)).rest⟩
  have default : d.precision.getD 6 ≤ d.precision.getD 0 + 6 := by
    cases d.precision with
    | none => exact Nat.le_refl 6
    | some n => exact Nat.le_add_right n 6
  simp only [if_true, List.length_nil] at bare
  omega

-- The directives of values that always suit.
structure Common (h : Heap) (d : Directive) (v : Value) : Prop where
  text : d.kind = 's' → (∃ t, v = .str t) ∨ ∀ u, Guard.Shown h v u → Guard.Fits h u
  quoted : d.kind = 'r' → ∀ u, Guard.Shown h v u → Guard.Fits h u
  ascii : d.kind = 'a' → (∀ u, Guard.Shown h v u → Guard.Fits h u) ∧ v.asciiQuoted h = v.quoted h
  whole : d.kind ∈ "diuoxX".toList →
    v.int? ≠ none ∨ ∃ x, v = .float x ∧ Number.IsBelow 24 x.value
  real : d.kind ∈ "eEfFgG".toList →
    ∃ x, v = .float x ∧ (d.kind.toLower = 'f' → Number.IsBelow 24 x.value)

theorem common_suits {h : Heap} {d : Directive} {v : Value} (common : Common h d v) : Suits h d v := by
  intro index shown n shows weighs
  obtain ⟨inner, _, rfl⟩ := Guard.weighs_one weighs
  have two := Guard.two_le_ownSize h v
  rcases showValue_cases shows with ⟨kind, s, ran, rfl⟩ | ⟨kind, s, ran, rfl⟩ | ⟨kind, s, ran, rfl⟩ |
    ⟨_, ran⟩ | ⟨kind, ran⟩ | ⟨kind, ran⟩
  · have text := Guard.text_length weighs ran (common.text kind)
    have cut := cut_length d s
    omega
  · have text := Guard.quoted_length weighs ran (common.quoted kind)
    have cut := cut_length d s
    omega
  · obtain ⟨fits, same⟩ := common.ascii kind
    have text := Guard.quoted_length weighs (same ▸ ran) fits
    have cut := cut_length d s
    omega
  · have one := showChar_length ran d
    omega
  · rcases common.whole kind with some | ⟨x, rfl, below⟩
    · obtain ⟨m, same⟩ := Option.ne_none_iff_exists'.mp some
      have few : ∀ k, wholeNumber d.kind v = .ok k → ∀ base, 8 ≤ base →
          k.natAbs < base ^ (Number.bitLength m.natAbs / 3 + 1) := fun k whole base wide =>
        wholeNumber_int same whole ▸ Number.lt_of_bits wide m.natAbs
      have text := showInteger_length few ran
      have size : Number.bitLength m.natAbs / 3 + 2 ≤ Guard.ownSize h v := numberSize_le same
      omega
    · have few : ∀ k, wholeNumber d.kind (.float x) = .ok k → ∀ base, 8 ≤ base →
          k.natAbs < base ^ (26 + 1) := fun k whole base wide =>
        calc k.natAbs < 10 ^ 24 := wholeNumber_float below whole
          _ ≤ 8 ^ 27 := by decide
          _ ≤ base ^ 27 := Nat.pow_le_pow_left wide 27
      have text := showInteger_length few ran
      have own : Guard.ownSize h (.float x) = 32 := rfl
      omega
  · obtain ⟨x, rfl, below⟩ := common.real kind
    have text := showFloat_length below ran
    have own : Guard.ownSize h (.float x) = 32 := rfl
    omega

end Template
end ScriptArena
