import ScriptArena.Service.Endpoint
import ScriptArena.Service.Target

namespace ScriptArena.Endpoint
open Target (segments)

def Whole (s : List Char) : Prop := ∀ c ∈ s, c ≠ '/'

theorem segments_cons (c : Char) (cs : List Char) :
    segments (c :: cs) = if c = '/' then [] :: segments cs else (segments cs).modifyHead (c :: ·) := by
  simp [segments, List.splitOn_cons_eq_if_modifyHead]

theorem segments_slash (cs : List Char) : segments ('/' :: cs) = [] :: segments cs := by
  rw [segments_cons, if_pos rfl]

variable {s t : List Char} {l : List (List Char)} {i : Nat}

theorem segments_whole (whole : Whole s) : segments s = [s] := by
  induction s with
  | nil => rfl
  | cons c s ih =>
    obtain ⟨first, rest⟩ := List.forall_mem_cons.mp whole
    rw [segments_cons, if_neg first, ih rest]
    rfl

theorem segments_append (whole : Whole s) (cs : List Char) :
    segments (s ++ '/' :: cs) = s :: segments cs := by
  induction s with
  | nil => exact segments_slash cs
  | cons c s ih =>
    obtain ⟨first, rest⟩ := List.forall_mem_cons.mp whole
    rw [List.cons_append, segments_cons, if_neg first, ih rest]
    rfl

-- A path is one segment, or has one before its first slash.
theorem first_cases (cs : List Char) :
    Whole cs ∨ ∃ s rest, Whole s ∧ cs = s ++ '/' :: rest := by
  induction cs with
  | nil => exact .inl nofun
  | cons c cs ih =>
    by_cases slash : c = '/'
    · exact .inr ⟨[], cs, nofun, by rw [slash]; rfl⟩
    · rcases ih with whole | ⟨s, rest, whole, rfl⟩
      · exact .inl (List.forall_mem_cons.mpr ⟨slash, whole⟩)
      · exact .inr ⟨c :: s, rest, List.forall_mem_cons.mpr ⟨slash, whole⟩, rfl⟩

theorem segments_inj {cs ds : List Char} (same : segments cs = segments ds) : cs = ds := by
  have joined := congrArg (['/'].intercalate ·) same
  simpa only [segments, List.intercalate_splitOn] using joined

def isNumber (s : List Char) : Bool := !s.isEmpty && s.all Text.isDecimal

-- At the end of a path a line break may stand behind a number.
def isBroken (s : List Char) : Bool := s.getLast? = some '\n' && isNumber s.dropLast

def mask (last : Bool) (s : List Char) : List Char :=
  if isNumber s then placeholder
  else if last && isBroken s then placeholder ++ ['\n']
  else s

theorem isDecimal_slash : Text.isDecimal '/' = false := by decide

theorem isDecimal_break : Text.isDecimal '\n' = false := by decide

theorem isNumber_iff : isNumber s = true ↔ s ≠ [] ∧ ∀ c ∈ s, Text.isDecimal c = true := by
  simp [isNumber]

theorem isBroken_iff : isBroken s = true ↔ ∃ n, isNumber n = true ∧ s = n ++ ['\n'] := by
  constructor
  · intro broken
    simp only [isBroken, Bool.and_eq_true, decide_eq_true_eq] at broken
    obtain ⟨ending, number⟩ := broken
    obtain ⟨front, rfl⟩ := List.getLast?_eq_some_iff.mp ending
    exact ⟨front, by simpa using number, rfl⟩
  · rintro ⟨n, number, rfl⟩
    simp [isBroken, number]

theorem isNumber_whole (number : isNumber s = true) : Whole s := by
  intro c inside slash
  have digit := (isNumber_iff.mp number).2 c inside
  rw [slash, isDecimal_slash] at digit
  cases digit

theorem whole_placeholder : Whole placeholder ∧ Whole (placeholder ++ ['\n']) := by
  have whole : Whole placeholder := by
    have all : placeholder.all (· != '/') = true := by decide
    exact fun c inside => by simpa using List.all_eq_true.mp all c inside
  exact ⟨whole, List.forall_mem_append.mpr ⟨whole, by simp⟩⟩

theorem whole_mask (last : Bool) (whole : Whole s) : Whole (mask last s) := by
  unfold mask
  split
  · exact whole_placeholder.1
  · split
    · exact whole_placeholder.2
    · exact whole

-- What has been hidden once is not hidden again.
theorem isNumber_mask (last : Bool) (s : List Char) : isNumber (mask last s) = false := by
  unfold mask
  split
  · decide
  · rename_i other
    split
    · decide
    · simpa using other

theorem mask_mask (last : Bool) (s : List Char) : mask last (mask last s) = mask last s := by
  have plain : mask last placeholder = placeholder ∧
      mask last (placeholder ++ ['\n']) = placeholder ++ ['\n'] := by
    cases last <;> decide
  by_cases number : isNumber s = true
  · simp only [mask, if_pos number]
    exact plain.1
  · by_cases broken : (last && isBroken s) = true
    · simp only [mask, if_neg number, if_pos broken]
      exact plain.2
    · simp only [mask, if_neg number, if_neg broken]

theorem mask_number (number : isNumber s = true) (last : Bool) : mask last s = placeholder :=
  if_pos number

theorem mask_inner (plain : isNumber s = false) : mask false s = s := by
  simp [mask, plain]

-- Behind the first slash. The segment behind a number that gives way is passed over.
def hideBehind : List (List Char) → List (List Char)
  | [] => []
  | [s] => [mask true s]
  | s :: t :: rest =>
    if isNumber s then placeholder :: t :: hideBehind rest else s :: hideBehind (t :: rest)

def hidden : List (List Char) → List (List Char)
  | [] => []
  | first :: rest => first :: hideBehind rest

theorem hideNumbers_cons {c : Char} (inner : c ≠ '/') (cs : List Char) :
    hideNumbers (c :: cs) = c :: hideNumbers cs := by
  rw [hideNumbers, if_neg fun slash => inner slash.1]

theorem hideNumbers_whole (whole : Whole s) : hideNumbers s = s := by
  induction s with
  | nil => rw [hideNumbers]
  | cons c s ih =>
    obtain ⟨first, rest⟩ := List.forall_mem_cons.mp whole
    rw [hideNumbers_cons first, ih rest]

theorem hideNumbers_append (whole : Whole s) (cs : List Char) :
    hideNumbers (s ++ cs) = s ++ hideNumbers cs := by
  induction s with
  | nil => rfl
  | cons c s ih =>
    obtain ⟨first, rest⟩ := List.forall_mem_cons.mp whole
    rw [List.cons_append, hideNumbers_cons first, ih rest, List.cons_append]

theorem digits_append {n : List Char} (cs : List Char) (number : isNumber n = true)
    (ends : ∀ c, cs.head? = some c → Text.isDecimal c = false) :
    ((n ++ cs).takeWhile Text.isDecimal).isEmpty = false ∧ (n ++ cs).dropWhile Text.isDecimal = cs := by
  obtain ⟨filled, digits⟩ := isNumber_iff.mp number
  have behind : cs.takeWhile Text.isDecimal = [] ∧ cs.dropWhile Text.isDecimal = cs := by
    cases cs with
    | nil => exact ⟨rfl, rfl⟩
    | cons c cs =>
      have other := ends c rfl
      simp [other]
  rw [List.takeWhile_append_of_pos digits, List.dropWhile_append_of_pos digits, behind.1, behind.2]
  simpa using filled

theorem hideNumbers_digits {cs : List Char}
    (digits : (cs.takeWhile Text.isDecimal).isEmpty = false) :
    hideNumbers ('/' :: cs) = match cs.dropWhile Text.isDecimal with
      | [] => '/' :: placeholder
      | ['\n'] => '/' :: placeholder ++ ['\n']
      | '/' :: more => '/' :: placeholder ++ '/' :: hideNumbers more
      | _ => '/' :: hideNumbers cs := by
  rw [hideNumbers, if_pos ⟨rfl, digits⟩]
  split
  · rename_i found
    rw [found]
  · rename_i found
    rw [found]
    rfl
  · rename_i found
    rw [found]
    rfl
  · rename_i none line slash
    split
    · rename_i found
      exact absurd found none
    · rename_i found
      exact absurd found line
    · rename_i found
      exact absurd found (slash _)
    · rfl

-- A segment that is no number, with what stands behind it.
theorem hideNumbers_other {cs : List Char}
    (other : ∀ n, isNumber n = true → cs ≠ n ∧ cs ≠ n ++ ['\n'] ∧ ∀ rest, cs ≠ n ++ '/' :: rest) :
    hideNumbers ('/' :: cs) = '/' :: hideNumbers cs := by
  rw [hideNumbers]
  split
  · rename_i digits
    have number : isNumber (cs.takeWhile Text.isDecimal) = true := by
      refine isNumber_iff.mpr ⟨by simpa using digits.2, fun c inside => ?_⟩
      exact List.all_eq_true.mp List.all_takeWhile c inside
    obtain ⟨plain, broken, inner⟩ := other _ number
    have parted := List.takeWhile_append_dropWhile (p := Text.isDecimal) (l := cs)
    split
    · rename_i none
      rw [none, List.append_nil] at parted
      exact absurd parted.symm plain
    · rename_i line
      rw [line] at parted
      exact absurd parted.symm broken
    · rename_i rest slash
      rw [slash] at parted
      exact absurd parted.symm (inner rest)
    · rfl
  · rfl

theorem hideNumbers_last (whole : Whole s) : hideNumbers ('/' :: s) = '/' :: mask true s := by
  by_cases number : isNumber s = true
  · obtain ⟨digits, behind⟩ := digits_append [] number nofun
    rw [List.append_nil] at digits behind
    rw [hideNumbers_digits digits, behind, mask_number number]
  by_cases broken : isBroken s = true
  · obtain ⟨n, digits, rfl⟩ := isBroken_iff.mp broken
    obtain ⟨filled, behind⟩ := digits_append ['\n'] digits (by simp [isDecimal_break])
    rw [hideNumbers_digits filled, behind, mask, if_neg number, if_pos (by simpa using broken)]
    rfl
  · have other : ∀ n, isNumber n = true →
        s ≠ n ∧ s ≠ n ++ ['\n'] ∧ ∀ rest, s ≠ n ++ '/' :: rest := by
      refine fun n digits => ⟨?_, ?_, fun rest same => ?_⟩
      · rintro rfl
        exact number digits
      · rintro rfl
        exact broken (isBroken_iff.mpr ⟨n, digits, rfl⟩)
      · exact whole '/' (by simp [same]) rfl
    rw [hideNumbers_other other, hideNumbers_whole whole]
    simp [mask, number, broken]

theorem hideNumbers_inner (whole : Whole s) (rest : List Char) :
    hideNumbers ('/' :: (s ++ '/' :: rest)) =
      if isNumber s then '/' :: placeholder ++ '/' :: hideNumbers rest
      else '/' :: s ++ hideNumbers ('/' :: rest) := by
  split
  · rename_i number
    obtain ⟨digits, behind⟩ := digits_append ('/' :: rest) number (by simp [isDecimal_slash])
    rw [hideNumbers_digits digits, behind]
    rfl
  · rename_i number
    have other : ∀ n, isNumber n = true → s ++ '/' :: rest ≠ n ∧ s ++ '/' :: rest ≠ n ++ ['\n'] ∧
        ∀ more, s ++ '/' :: rest ≠ n ++ '/' :: more := by
      refine fun n digits => ⟨?_, ?_, fun more same => ?_⟩
      · rintro rfl
        exact isNumber_whole digits '/' (by simp) rfl
      · intro same
        have inside : '/' ∈ n ++ ['\n'] := same ▸ by simp
        rcases List.mem_append.mp inside with digit | line
        · exact isNumber_whole digits '/' digit rfl
        · simp at line
      · have first := congrArg (List.head? ∘ segments) same
        simp only [Function.comp_apply, segments_append whole, segments_append (isNumber_whole digits),
          List.head?_cons, Option.some.injEq] at first
        exact number (first ▸ digits)
    rw [hideNumbers_other other, hideNumbers_append whole]
    rfl

-- What a pass makes of a slash and the segments behind it.
def Hides (rest : List Char) : Prop :=
  ∃ out, hideNumbers ('/' :: rest) = '/' :: out ∧ segments out = hideBehind (segments rest)

theorem segments_of_hides {path : List Char}
    (shorter : ∀ rest, rest.length < path.length → Hides rest) :
    segments (hideNumbers path) = hidden (segments path) := by
  rcases first_cases path with whole | ⟨s, rest, whole, rfl⟩
  · rw [hideNumbers_whole whole, segments_whole whole]
    rfl
  · obtain ⟨out, ran, split⟩ := shorter rest (by simp; omega)
    rw [hideNumbers_append whole, ran, segments_append whole, segments_append whole, split]
    rfl

theorem hides (rest : List Char) : Hides rest := by
  induction short : rest.length using Nat.strongRecOn generalizing rest with
  | ind size ih =>
  subst short
  rcases first_cases rest with whole | ⟨s, more, whole, rfl⟩
  · refine ⟨mask true rest, hideNumbers_last whole, ?_⟩
    rw [segments_whole whole, segments_whole (whole_mask true whole)]
    rfl
  have split : segments (s ++ '/' :: more) = s :: segments more := segments_append whole more
  obtain ⟨t, others, next⟩ : ∃ t others, segments more = t :: others :=
    List.exists_cons_of_ne_nil (List.splitOnP_ne_nil _ more)
  have later : ∀ rest : List Char, rest.length < more.length → Hides rest :=
    fun rest shorter => ih _ (by simp; omega) rest rfl
  unfold Hides
  rw [hideNumbers_inner whole, split, next]
  by_cases number : isNumber s = true
  · refine ⟨placeholder ++ '/' :: hideNumbers more, by rw [if_pos number]; rfl, ?_⟩
    rw [segments_append whole_placeholder.1, segments_of_hides later, next]
    simp only [hideBehind, if_pos number, hidden]
  · obtain ⟨out, ran, same⟩ := ih more.length (by simp; omega) more rfl
    refine ⟨s ++ '/' :: out, by rw [if_neg number, ran]; rfl, ?_⟩
    rw [segments_append whole, same, next]
    simp only [hideBehind, if_neg number]

theorem segments_hideNumbers (path : List Char) :
    segments (hideNumbers path) = hidden (segments path) :=
  segments_of_hides fun rest _ => hides rest

def stem : List (List Char) := [[], "api".toList, "challenges".toList]

-- The segment behind the stem, unless it is empty.
def nameChallenge (l : List (List Char)) : List (List Char) :=
  if l.take 3 = stem ∧ (l[3]?).any (· ≠ []) then l.set 3 placeholder else l

theorem segments_stem (rest : List Char) :
    segments (challengeStem ++ rest) = stem ++ segments rest := by
  have names : Whole "api".toList ∧ Whole "challenges".toList := by simp [Whole]
  have shape : challengeStem ++ rest =
      '/' :: ("api".toList ++ '/' :: ("challenges".toList ++ '/' :: rest)) := by
    unfold challengeStem
    simp only [String.reduceToList, List.cons_append, List.nil_append]
  rw [shape, segments_slash, segments_append names.1, segments_append names.2]
  simp only [stem, List.cons_append, List.nil_append]

theorem nameChallenge_stem (s : List Char) (others : List (List Char)) :
    nameChallenge (stem ++ s :: others) =
      if s = [] then stem ++ s :: others else stem ++ placeholder :: others := by
  have three : stem.length = 3 := rfl
  have reached : stem.length ≤ 3 := Nat.le_refl 3
  have begins : (stem ++ s :: others).take 3 = stem := List.take_left' three
  have fourth : (stem ++ s :: others)[3]? = some s := by
    rw [List.getElem?_append_right reached, three]
    rfl
  have named : (stem ++ s :: others).set 3 placeholder = stem ++ placeholder :: others := by
    rw [List.set_append_right 3 _ reached, three]
    rfl
  rw [nameChallenge, begins, fourth, named]
  by_cases empty : s = []
  · simp [empty]
  · simp [empty]

-- A path that begins with the segments of the stem begins with its characters.
theorem stem_prefix {path s : List Char} (begins : (segments path).take 3 = stem)
    (more : (segments path)[3]? = some s) : challengeStem <+: path := by
  have shape : segments path = stem ++ s :: (segments path).drop 4 := by
    have behind : (segments path).drop 3 = s :: (segments path).drop 4 := by
      simpa [more] using List.drop_eq_getElem?_toList_append (l := segments path) (i := 3)
    rw [← begins, ← behind, List.take_append_drop]
  have joined : ['/'].intercalate (segments path) = path := List.intercalate_splitOn '/'
  rw [shape] at joined
  refine ⟨['/'].intercalate (s :: (segments path).drop 4), Eq.trans ?_ joined⟩
  unfold stem challengeStem
  simp only [String.reduceToList, List.intercalate, List.cons_append, List.nil_append,
    List.intersperse_cons_cons, List.flatten_cons]

theorem behind_whole (whole : Whole s) (cs : List Char) :
    (s ++ cs).dropWhile (· != '/') = cs.dropWhile (· != '/') :=
  List.dropWhile_append_of_pos fun c inside => by simpa using whole c inside

theorem segments_hideChallenge (path : List Char) :
    segments (hideChallenge path) = nameChallenge (segments path) := by
  unfold hideChallenge
  split
  · rename_i begins
    obtain ⟨rest, rfl⟩ := List.isPrefixOf_iff_prefix.mp begins
    rw [List.drop_left, segments_stem]
    dsimp only
    rcases first_cases rest with whole | ⟨s, more, whole, rfl⟩
    · have behind : rest.dropWhile (· != '/') = [] := by
        simpa using behind_whole whole []
      rw [behind, segments_whole whole, nameChallenge_stem]
      by_cases empty : rest = []
      · rw [if_pos (by simp [empty]), if_pos empty, segments_stem, segments_whole whole]
      · have longer : ¬ ([] : List Char).length = rest.length :=
          fun same => empty (List.length_eq_zero_iff.mp same.symm)
        rw [if_neg longer, if_neg empty, List.append_nil, segments_stem,
          segments_whole whole_placeholder.1]
    · have behind : (s ++ '/' :: more).dropWhile (· != '/') = '/' :: more := by
        simpa using behind_whole whole ('/' :: more)
      rw [behind, segments_append whole, nameChallenge_stem]
      by_cases empty : s = []
      · rw [if_pos (by simp [empty]), if_pos empty, segments_stem, segments_append whole]
      · have longer : ¬ ('/' :: more).length = (s ++ '/' :: more).length := by
          have filled := List.length_pos_iff.mpr empty
          simp only [List.length_append]
          omega
        rw [if_neg longer, if_neg empty, List.append_assoc, segments_stem,
          segments_append whole_placeholder.1]
  · rename_i other
    have same : nameChallenge (segments path) = segments path := by
      refine if_neg fun ⟨begins, id⟩ => other (List.isPrefixOf_iff_prefix.mpr ?_)
      obtain ⟨s, found, -⟩ := (Option.any_eq_true _ _).mp id
      exact stem_prefix begins found
    exact same.symm

end ScriptArena.Endpoint
