import Mathlib.Data.List.TakeDrop
import ScriptArena.Value.Template

namespace ScriptArena
namespace Template

theorem readDirective_steps {h : Heap} {medium : Medium} {s t : Supply} {cs rest : List Char}
    {d : Directive} (read : readDirective h medium s cs = .ok (d, t, rest)) :
    ∃ s₁ bare width s₂ middle last, readSource h medium s cs = .ok (s₁, bare) ∧
      readWidth s₁ (bare.dropWhile isFlag) = .ok (width, s₂, middle) ∧
      readPrecision medium s₂ middle = .ok (d.precision, t, last) ∧
      skipSize last = d.kind :: rest ∧ d.width = width.map Int.natAbs := by
  unfold readDirective at read
  obtain ⟨⟨s₁, bare⟩, source, read⟩ := bind_eq_ok.mp read
  obtain ⟨⟨width, s₂, middle⟩, wide, read⟩ := bind_eq_ok.mp read
  obtain ⟨⟨precision, s₃, last⟩, precise, read⟩ := bind_eq_ok.mp read
  dsimp only at read
  split at read
  · cases read
  · rename_i skipped
    cases read
    exact ⟨s₁, bare, width, s₂, middle, last, source, wide, precise, skipped, rfl⟩

theorem readSource_cases {h : Heap} {medium : Medium} {s t : Supply} {cs bare : List Char}
    (read : readSource h medium s cs = .ok (t, bare)) :
    (cs.head? ≠ some '(' ∧ bare = cs ∧ t = s) ∨
      ∃ rest name, cs = '(' :: rest ∧ readName 0 rest [] = .ok (name, bare) ∧
        lookUp h medium name s = .ok t := by
  unfold readSource at read
  split at read
  · rename_i rest
    split at read
    · cases read
    · obtain ⟨⟨name, behind⟩, named, read⟩ := bind_eq_ok.mp read
      obtain ⟨u, found, read⟩ := bind_eq_ok.mp read
      cases read
      exact .inr ⟨rest, name, rfl, named, found⟩
  · rename_i bald
    cases read
    refine .inl ⟨fun opened => ?_, rfl, rfl⟩
    obtain ⟨rest, rfl⟩ := List.head?_eq_some_iff.mp opened
    exact bald rest rfl

theorem readDigits_splits {limit n m : Nat} {complaint : String} {cs rest : List Char}
    (read : readDigits limit complaint cs n = .ok (m, rest)) :
    ∃ digits, cs = digits ++ rest ∧ (∀ c ∈ digits, c.isDigit) ∧
      m = digits.foldl (fun n c => n * 10 + (c.toNat - 48)) n := by
  induction cs generalizing n with
  | nil =>
    cases read
    exact ⟨[], rfl, by simp, rfl⟩
  | cons c cs ih =>
    unfold readDigits at read
    by_cases digit : c.isDigit
    · rw [if_pos digit] at read
      dsimp only at read
      split at read
      · cases read
      · obtain ⟨digits, same, all, value⟩ := ih read
        refine ⟨c :: digits, by rw [same, List.cons_append], ?_, value⟩
        exact List.forall_mem_cons.mpr ⟨digit, all⟩
    · rw [if_neg digit] at read
      cases read
      exact ⟨[], rfl, by simp, rfl⟩

-- A run of digits, and the number that it reads.
def Reads (digits : List Char) (n : Nat) : Prop :=
  (∀ c ∈ digits, c.isDigit) ∧ n = digits.foldl (fun n c => n * 10 + (c.toNat - 48)) 0

theorem readWidth_cases {s t : Supply} {cs rest : List Char} {width : Option Int}
    (read : readWidth s cs = .ok (width, t, rest)) :
    (cs = '*' :: rest ∧ ∃ n, takeNumber s = .ok (n, t)) ∨
      (t = s ∧ cs.head? ≠ some '*' ∧ ∃ digits, cs = digits ++ rest ∧
        Reads digits ((width.map Int.natAbs).getD 0)) := by
  unfold readWidth at read
  split at read
  · obtain ⟨⟨n, u⟩, number, read⟩ := bind_eq_ok.mp read
    cases read
    exact .inl ⟨rfl, n, number⟩
  · rename_i c more plain
    have starless : (c :: more).head? ≠ some '*' := by simpa using plain
    split at read
    · obtain ⟨⟨n, behind⟩, number, read⟩ := bind_eq_ok.mp read
      cases read
      obtain ⟨digits, same, all, value⟩ := readDigits_splits number
      exact .inr ⟨rfl, starless, digits, same, all, value⟩
    · cases read
      exact .inr ⟨rfl, starless, [], rfl, List.forall_mem_nil _, rfl⟩
  · cases read
    exact .inr ⟨rfl, by simp, [], rfl, List.forall_mem_nil _, rfl⟩

theorem readPrecision_cases {medium : Medium} {s t : Supply} {cs rest : List Char}
    {precision : Option Nat} (read : readPrecision medium s cs = .ok (precision, t, rest)) :
    (cs = '.' :: '*' :: rest ∧ ∃ n, takeNumber s = .ok (n, t)) ∨
      (t = s ∧ ∃ digits, cs = '.' :: (digits ++ rest) ∧ (digits ++ rest).head? ≠ some '*' ∧
        Reads digits (precision.getD 0)) ∨
      (t = s ∧ cs = rest ∧ cs.head? ≠ some '.' ∧ precision = none) := by
  unfold readPrecision at read
  split at read
  · obtain ⟨⟨n, u⟩, number, read⟩ := bind_eq_ok.mp read
    cases read
    exact .inl ⟨rfl, n, number⟩
  · rename_i more plain
    have starless : more.head? ≠ some '*' := fun starred => by
      obtain ⟨later, rfl⟩ := List.head?_eq_some_iff.mp starred
      exact plain later rfl
    obtain ⟨⟨n, behind⟩, number, read⟩ := bind_eq_ok.mp read
    cases read
    obtain ⟨digits, rfl, all, value⟩ := readDigits_splits number
    exact .inr (.inl ⟨rfl, digits, rfl, starless, all, value⟩)
  · rename_i bald
    cases read
    refine .inr (.inr ⟨rfl, rfl, fun pointed => ?_, rfl⟩)
    obtain ⟨later, rfl⟩ := List.head?_eq_some_iff.mp pointed
    exact bald later rfl

-- What can be shown in a text, by the kind of the directive.
theorem showValue_cases {h : Heap} {d : Directive} {index : Nat} {v : Value} {shown : Shown}
    (shows : showValue h .text d index v = .ok shown) :
    (d.kind = 's' ∧ ∃ s, v.text h = .ok s ∧ shown = .cut d s.toList) ∨
      (d.kind = 'r' ∧ ∃ s, v.quoted h = .ok s ∧ shown = .cut d s.toList) ∨
      (d.kind = 'a' ∧ ∃ s, v.asciiQuoted h = .ok s ∧ shown = .cut d s.toList) ∨
      (d.kind = 'c' ∧ showChar v = .ok shown) ∨
      (d.kind ∈ "diuoxX".toList ∧ showInteger d v = .ok shown) ∨
      (d.kind ∈ "eEfFgG".toList ∧ showFloat .text d v = .ok shown) := by
  have cut {made : Except Trouble String} (ran : (do return Shown.cut d (← made).toList) = .ok shown) :
      ∃ s, made = .ok s ∧ shown = .cut d s.toList := by
    obtain ⟨s, same, ran⟩ := bind_eq_ok.mp ran
    cases ran
    exact ⟨s, same, rfl⟩
  unfold showValue at shows
  split at shows
  · exact .inl ⟨‹_›, cut shows⟩
  · exact .inr (.inl ⟨‹_›, cut shows⟩)
  · contradiction
  · contradiction
  · exact .inr (.inr (.inl ⟨‹_›, cut shows⟩))
  · contradiction
  · contradiction
  · exact .inr (.inr (.inr (.inl ⟨‹_›, shows⟩)))
  · contradiction
  · split at shows
    · rename_i whole
      exact .inr (.inr (.inr (.inr (.inl ⟨List.contains_iff_mem.mp whole, shows⟩))))
    · split at shows
      · rename_i real
        exact .inr (.inr (.inr (.inr (.inr ⟨List.contains_iff_mem.mp real, shows⟩))))
      · cases shows

theorem readName_suffix {nested : Nat} {cs acc name rest : List Char}
    (read : readName nested cs acc = .ok (name, rest)) : rest <:+ cs := by
  induction cs generalizing nested acc with
  | nil => cases read
  | cons c cs ih =>
    have behind : cs <:+ c :: cs := List.suffix_cons c cs
    unfold readName at read
    split at read
    · cases read
      exact behind
    · exact (ih read).trans behind
    · exact (ih read).trans behind
    · exact (ih read).trans behind

theorem readSource_suffix {h : Heap} {medium : Medium} {s t : Supply} {cs bare : List Char}
    (read : readSource h medium s cs = .ok (t, bare)) : bare <:+ cs := by
  rcases readSource_cases read with ⟨_, rfl, _⟩ | ⟨rest, name, rfl, named, _⟩
  · exact List.suffix_rfl
  · exact (readName_suffix named).trans (List.suffix_cons _ _)

theorem readWidth_suffix {s t : Supply} {cs rest : List Char} {width : Option Int}
    (read : readWidth s cs = .ok (width, t, rest)) : rest <:+ cs := by
  rcases readWidth_cases read with ⟨rfl, _⟩ | ⟨_, _, digits, rfl, _⟩
  · exact List.suffix_cons _ _
  · exact List.suffix_append _ _

theorem readPrecision_suffix {medium : Medium} {s t : Supply} {cs rest : List Char}
    {precision : Option Nat} (read : readPrecision medium s cs = .ok (precision, t, rest)) :
    rest <:+ cs := by
  rcases readPrecision_cases read with ⟨rfl, _⟩ | ⟨_, digits, rfl, _⟩ | ⟨_, rfl, _⟩
  · exact (List.suffix_cons _ _).trans (List.suffix_cons _ _)
  · exact (List.suffix_append _ _).trans (List.suffix_cons _ _)
  · exact List.suffix_rfl

theorem skipSize_suffix (cs : List Char) : skipSize cs <:+ cs := by
  unfold skipSize
  split
  · split
    · exact List.suffix_cons _ _
    · exact List.suffix_rfl
  · exact List.suffix_rfl

-- What has been read ends with the kind.
theorem readDirective_suffix {h : Heap} {medium : Medium} {s t : Supply} {cs rest : List Char}
    {d : Directive} (read : readDirective h medium s cs = .ok (d, t, rest)) : d.kind :: rest <:+ cs := by
  obtain ⟨s₁, bare, width, s₂, middle, last, source, wide, precise, skipped, _⟩ :=
    readDirective_steps read
  have numbers : last <:+ bare.dropWhile isFlag :=
    (readPrecision_suffix precise).trans (readWidth_suffix wide)
  have flags : bare.dropWhile isFlag <:+ cs :=
    (List.dropWhile_suffix _).trans (readSource_suffix source)
  rw [← skipped]
  exact (skipSize_suffix last).trans (numbers.trans flags)

-- No dict is looked into, and values have at most been taken from the front.
def Supply.After (t s : Supply) : Prop := t.mapping = s.mapping ∧ t.left <:+ s.left

theorem Supply.After.refl (s : Supply) : s.After s := ⟨rfl, List.suffix_rfl⟩

theorem Supply.After.trans {s t u : Supply} (later : u.After t) (earlier : t.After s) : u.After s :=
  ⟨later.1.trans earlier.1, later.2.trans earlier.2⟩

theorem take_cons {s t : Supply} {v : Value} (took : s.take = .ok (v, t)) :
    s.left = v :: t.left ∧ t.mapping = s.mapping := by
  unfold Supply.take at took
  split at took
  · rename_i same
    cases took
    exact ⟨same, rfl⟩
  · cases took

theorem takeNumber_after {s t : Supply} {n : Int} (took : takeNumber s = .ok (n, t)) : t.After s := by
  unfold takeNumber at took
  obtain ⟨⟨v, u⟩, first, took⟩ := bind_eq_ok.mp took
  obtain ⟨left, mapping⟩ := take_cons first
  have after : u.After s := ⟨mapping, by rw [left]; exact List.suffix_cons _ _⟩
  dsimp only at took
  split at took
  · cases took
  · split at took
    · cases took
      exact after
    · cases took

-- Only a dict has a value under a name.
theorem lookUp_dict {h : Heap} {name : List Char} {s t : Supply}
    (found : lookUp h .text name s = .ok t) : ∃ i, s.mapping = some (.dict i) := by
  unfold lookUp at found
  split at found
  · cases found
  · rename_i m mapped
    cases m with
    | dict i => exact ⟨i, mapped⟩
    | _ => cases found

theorem readDirective_after {h : Heap} {s t : Supply} {cs rest : List Char} {d : Directive}
    (nameless : ∀ i, s.mapping ≠ some (.dict i))
    (read : readDirective h .text s cs = .ok (d, t, rest)) : t.After s := by
  obtain ⟨s₁, bare, width, s₂, middle, last, source, wide, precise, _⟩ := readDirective_steps read
  obtain rfl : s₁ = s := by
    rcases readSource_cases source with ⟨_, _, same⟩ | ⟨_, name, _, _, found⟩
    · exact same
    · obtain ⟨i, mapped⟩ := lookUp_dict found
      exact absurd mapped (nameless i)
  have first : s₂.After s₁ := by
    rcases readWidth_cases wide with ⟨_, n, took⟩ | ⟨rfl, _⟩
    · exact takeNumber_after took
    · exact .refl s₂
  have second : t.After s₂ := by
    rcases readPrecision_cases precise with ⟨_, n, took⟩ | ⟨rfl, _⟩ | ⟨rfl, _⟩
    · exact takeNumber_after took
    · exact .refl t
    · exact .refl t
  exact second.trans first

-- The directives of a template from some place on, each with the value that it shows.
def usesFrom (h : Heap) : Nat → List Char → Supply → List (Directive × Value)
  | 0, _, _ | _ + 1, [], _ => []
  | fuel + 1, '%' :: '%' :: rest, s => usesFrom h fuel rest s
  | fuel + 1, '%' :: cs, s =>
    match readDirective h .text s cs with
    | .error _ => []
    | .ok (d, s, rest) =>
      match s.take with
      | .error _ => []
      | .ok (v, s) => (d, v) :: usesFrom h fuel rest s
  | fuel + 1, _ :: cs, s => usesFrom h fuel (cs.dropWhile (· ≠ '%')) s

def uses (h : Heap) (cs : List Char) (args : Value) : List (Directive × Value) :=
  usesFrom h (cs.length + 1) cs (.ofValue .text args)

-- How a template is filled: what is shown in it, and the pieces that are made.
inductive Filled (h : Heap) : List Char → Supply → List (Directive × Value) → List (List Char) → Prop where
  | nil {s : Supply} : Filled h [] s [] []
  | percents {rest : List Char} {s : Supply} {us : List (Directive × Value)} {pieces : List (List Char)}
      (filled : Filled h rest s us pieces) : Filled h ('%' :: '%' :: rest) s us (['%'] :: pieces)
  | directive {cs rest : List Char} {s t u : Supply} {d : Directive} {v : Value} {index : Nat}
      {shown : Shown} {us : List (Directive × Value)} {pieces : List (List Char)}
      (single : cs.head? ≠ some '%') (read : readDirective h .text s cs = .ok (d, t, rest))
      (took : t.take = .ok (v, u)) (shows : showValue h .text d index v = .ok shown)
      (filled : Filled h rest u us pieces) :
      Filled h ('%' :: cs) s ((d, v) :: us) (shown.padded d :: pieces)
  | plain {c : Char} {cs : List Char} {s : Supply} {us : List (Directive × Value)}
      {pieces : List (List Char)} (other : c ≠ '%')
      (filled : Filled h (cs.dropWhile (· ≠ '%')) s us pieces) :
      Filled h (c :: cs) s us ((c :: cs.takeWhile (· ≠ '%')) :: pieces)

theorem fill_directive {h : Heap} {medium : Medium} {size fuel : Nat} {cs : List Char} {s : Supply}
    {done made : List (List Char)} (single : cs.head? ≠ some '%')
    (filled : fill h medium size (fuel + 1) ('%' :: cs) s done = .ok made) :
    ∃ d t rest v u shown, readDirective h medium s cs = .ok (d, t, rest) ∧ t.take = .ok (v, u) ∧
      showValue h medium d (size - rest.length - 1) v = .ok shown ∧
      fill h medium size fuel rest u (shown.padded d :: done) = .ok made := by
  rw [fill] at filled
  · obtain ⟨⟨d, t, rest⟩, read, filled⟩ := bind_eq_ok.mp filled
    obtain ⟨⟨v, u⟩, took, filled⟩ := bind_eq_ok.mp filled
    obtain ⟨shown, shows, filled⟩ := bind_eq_ok.mp filled
    dsimp only at filled
    split at filled
    · cases filled
    · exact ⟨d, t, rest, v, u, shown, read, took, shows, filled⟩
  · rintro rest rfl
    exact single rfl

theorem usesFrom_directive {h : Heap} {fuel : Nat} {cs rest : List Char} {s t u : Supply}
    {d : Directive} {v : Value} (single : cs.head? ≠ some '%')
    (read : readDirective h .text s cs = .ok (d, t, rest)) (took : t.take = .ok (v, u)) :
    usesFrom h (fuel + 1) ('%' :: cs) s = (d, v) :: usesFrom h fuel rest u := by
  rw [usesFrom]
  · simp only [read, took]
  · rintro rest rfl
    exact single rfl

theorem fill_filled {h : Heap} {size fuel : Nat} {cs : List Char} {s : Supply}
    {done made : List (List Char)} (enough : cs.length < fuel)
    (filled : fill h .text size fuel cs s done = .ok made) :
    ∃ pieces, Filled h cs s (usesFrom h fuel cs s) pieces ∧ made = pieces.reverse ++ done := by
  induction fuel generalizing cs s done with
  | zero => cases enough
  | succ fuel ih =>
    cases cs with
    | nil =>
      simp only [fill] at filled
      split at filled
      · cases filled
      · cases filled
        exact ⟨[], .nil, rfl⟩
    | cons c cs =>
      rw [List.length_cons] at enough
      by_cases percent : c = '%'
      · subst percent
        by_cases double : cs.head? = some '%'
        · obtain ⟨rest, rfl⟩ := List.head?_eq_some_iff.mp double
          rw [List.length_cons] at enough
          obtain ⟨pieces, later, same⟩ := ih (by omega) filled
          exact ⟨_, .percents later, by simp [same]⟩
        · obtain ⟨d, t, rest, v, u, shown, read, took, shows, later⟩ := fill_directive double filled
          have shorter := (readDirective_suffix read).length_le
          rw [List.length_cons] at shorter
          obtain ⟨pieces, later, same⟩ := ih (by omega) later
          rw [usesFrom_directive double read took]
          exact ⟨_, .directive double read took shows later, by simp [same]⟩
      · have single : ∀ rest, c = '%' → cs = '%' :: rest → False := fun _ same => absurd same percent
        rw [fill.eq_5 _ _ _ _ _ _ _ _ single percent, List.span_eq_takeWhile_dropWhile] at filled
        rw [usesFrom.eq_5 _ _ _ _ _ single percent]
        have shorter := (List.dropWhile_suffix (l := cs) (· ≠ '%')).length_le
        obtain ⟨pieces, later, same⟩ := ih (by omega) filled
        exact ⟨_, .plain percent later, by simp [same]⟩

-- Without names, every value is shown at most once.
theorem filled_left {h : Heap} {cs : List Char} {s : Supply} {us : List (Directive × Value)}
    {pieces : List (List Char)} (filled : Filled h cs s us pieces)
    (nameless : ∀ i, s.mapping ≠ some (.dict i)) : (us.map Prod.snd).Sublist s.left := by
  induction filled with
  | nil => exact List.nil_sublist _
  | percents filled ih => exact ih nameless
  | @directive cs rest s t u d v index shown us pieces single read took shows filled ih =>
    obtain ⟨mapping, behind⟩ := readDirective_after nameless read
    obtain ⟨first, same⟩ := take_cons took
    have later := ih fun i => by
      rw [same, mapping]
      exact nameless i
    exact (first ▸ later.cons_cons v).trans behind.sublist
  | plain other filled ih => exact ih nameless

theorem padded_length (d : Directive) (shown : Shown) : (shown.padded d).length ≤
    d.width.getD 0 + (shown.padded { d with width := none }).length := by
  simp only [Shown.padded, Option.getD_none, Nat.zero_sub, List.replicate_zero, List.append_nil,
    List.nil_append, ite_self]
  split
  · simp only [List.length_append, List.length_replicate]
    omega
  · split
    · simp only [List.length_append, List.length_replicate]
      omega
    · simp only [List.length_append, List.length_replicate]
      omega

end Template
end ScriptArena
