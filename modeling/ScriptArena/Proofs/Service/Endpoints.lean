import ScriptArena.Proofs.Service.Segments

namespace ScriptArena.Endpoint
open Target (segments)

variable {s t u : List Char} {l rest : List (List Char)} {i : Nat}

-- The slash in front of a segment has gone to the number before it.
def taken (l : List (List Char)) : Nat → Bool
  | 0 => false
  | i + 1 => !taken l i && (l[i]?).any isNumber

theorem taken_number (number : isNumber s = true) (i : Nat) :
    taken (s :: t :: rest) (i + 2) = taken rest i := by
  induction i with
  | zero => simp [taken, number]
  | succ i ih =>
    rw [taken, ih, taken]
    rfl

theorem taken_other (plain : isNumber s = false) (i : Nat) : taken (s :: l) (i + 1) = taken l i := by
  induction i with
  | zero => simp [taken, plain]
  | succ i ih =>
    rw [taken, ih, taken]
    rfl

theorem taken_succ (after : taken l (i + 1) = true) :
    taken l i = false ∧ ∃ s, l[i]? = some s ∧ isNumber s = true := by
  simp only [taken, Bool.and_eq_true, Bool.not_eq_true'] at after
  exact ⟨after.1, (Option.any_eq_true _ _).mp after.2⟩

-- A segment whose slash is taken stays, all others that are numbers give way.
theorem hideBehind_getElem? (l : List (List Char)) (i : Nat) :
    (hideBehind l)[i]? = l[i]?.map fun s => if taken l i then s else mask (i + 1 == l.length) s := by
  induction l using hideBehind.induct generalizing i with
  | case1 => rfl
  | case2 s =>
    cases i with
    | zero => rfl
    | succ i => rfl
  | case3 s t rest number ih =>
    rw [hideBehind, if_pos number]
    rcases i with _ | _ | i
    · simp [taken, mask_number number]
    · simp [taken, number]
    · rw [taken_number number]
      simpa using ih i
  | case4 s t rest number ih =>
    have plain : isNumber s = false := by simpa using number
    rw [hideBehind, if_neg number]
    cases i with
    | zero =>
      have inner : (0 + 1 == (s :: t :: rest).length) = false := by simp
      simp only [List.getElem?_cons_zero, Option.map_some, taken, inner, mask_inner plain]
      rfl
    | succ i =>
      rw [taken_other plain]
      simpa using ih i

theorem hideBehind_length (l : List (List Char)) : (hideBehind l).length = l.length := by
  induction l using hideBehind.induct with
  | case1 => rfl
  | case2 => rfl
  | case3 s t rest number ih => simp [hideBehind, number, ih]
  | case4 s t rest number ih => simp [hideBehind, number, ih]

-- What stands in a place after a pass, and what has stood there before.
theorem hideBehind_cases (found : (hideBehind l)[i]? = some u) :
    (taken l i = true ∧ l[i]? = some u) ∨
      (taken l i = false ∧ ∃ s, l[i]? = some s ∧ u = mask (i + 1 == l.length) s) := by
  rw [hideBehind_getElem?] at found
  obtain ⟨s, before, same⟩ := Option.map_eq_some_iff.mp found
  split at same
  · rename_i gone
    exact .inl ⟨gone, same ▸ before⟩
  · rename_i there
    exact .inr ⟨by simpa using there, s, before, same.symm⟩

theorem hideBehind_free (there : taken l i = false) (before : l[i]? = some s) :
    (hideBehind l)[i]? = some (mask (i + 1 == l.length) s) := by
  simp [hideBehind_getElem?, before, there]

theorem hideBehind_gone (gone : taken l i = true) (before : l[i]? = some s) :
    (hideBehind l)[i]? = some s := by
  simp [hideBehind_getElem?, before, gone]

-- The number that has taken the slash has given way itself.
theorem taken_hideBehind (gone : taken l i = true) : taken (hideBehind l) i = false := by
  cases i with
  | zero => rfl
  | succ i =>
    obtain ⟨there, s, before, -⟩ := taken_succ gone
    simp [taken, hideBehind_free there before, isNumber_mask]

-- Two numbers side by side.
def Neighbours (l : List (List Char)) : Prop :=
  ∃ i, (l[i]?).any isNumber = true ∧ (l[i + 1]?).any isNumber = true

-- Side by side with a number stands one, or at the end one that a line break follows.
def Crowded (l : List (List Char)) : Prop :=
  ∃ i t, (l[i]?).any isNumber = true ∧ l[i + 1]? = some t ∧ mask (i + 2 == l.length) t ≠ t

theorem mask_number_ne (number : isNumber s = true) (last : Bool) : mask last s ≠ s := by
  intro same
  have plain := isNumber_mask last s
  rw [same, number] at plain
  cases plain

theorem Neighbours.crowded (side : Neighbours l) : Crowded l := by
  obtain ⟨i, first, second⟩ := side
  obtain ⟨t, there, number⟩ := (Option.any_eq_true _ _).mp second
  exact ⟨i, t, first, there, mask_number_ne number _⟩

-- Of two that are crowded the slash of one is taken.
theorem crowded_iff : Crowded l ↔
    ∃ i s, taken l i = true ∧ l[i]? = some s ∧ mask (i + 1 == l.length) s ≠ s := by
  constructor
  · rintro ⟨i, t, first, second, shown⟩
    cases gone : taken l i with
    | true =>
      obtain ⟨s, there, number⟩ := (Option.any_eq_true _ _).mp first
      exact ⟨i, s, gone, there, mask_number_ne number _⟩
    | false => exact ⟨i + 1, t, by simp [taken, gone, first], second, shown⟩
  · rintro ⟨i, s, gone, there, shown⟩
    cases i with
    | zero => cases gone
    | succ i =>
      obtain ⟨-, n, before, number⟩ := taken_succ gone
      exact ⟨i, s, by simp [before, number], there, shown⟩

theorem numbers_left : (∃ s ∈ hideBehind l, isNumber s = true) ↔ Neighbours l := by
  constructor
  · rintro ⟨s, inside, number⟩
    obtain ⟨i, found⟩ := List.mem_iff_getElem?.mp inside
    rcases hideBehind_cases found with ⟨gone, there⟩ | ⟨-, n, -, rfl⟩
    · cases i with
      | zero => cases gone
      | succ i =>
        obtain ⟨-, n, before, first⟩ := taken_succ gone
        exact ⟨i, by simp [before, first], by simp [there, number]⟩
    · rw [isNumber_mask] at number
      cases number
  · rintro ⟨i, first, second⟩
    cases gone : taken l i with
    | true =>
      obtain ⟨s, there, number⟩ := (Option.any_eq_true _ _).mp first
      exact ⟨s, List.mem_iff_getElem?.mpr ⟨i, hideBehind_gone gone there⟩, number⟩
    | false =>
      obtain ⟨s, there, number⟩ := (Option.any_eq_true _ _).mp second
      have later : taken l (i + 1) = true := by simp [taken, gone, first]
      exact ⟨s, List.mem_iff_getElem?.mpr ⟨i + 1, hideBehind_gone later there⟩, number⟩

theorem settled_iff : hideBehind (hideBehind l) = hideBehind l ↔ ¬ Crowded l := by
  rw [crowded_iff]
  constructor
  · rintro same ⟨i, s, gone, there, shown⟩
    have once := hideBehind_gone gone there
    have again := hideBehind_free (taken_hideBehind gone) once
    rw [same, once, hideBehind_length] at again
    exact shown (Option.some.inj again).symm
  · intro alone
    refine List.ext_getElem? fun i => ?_
    cases found : (hideBehind l)[i]? with
    | none => rw [hideBehind_getElem?, found, Option.map_none]
    | some u =>
      have still : mask (i + 1 == l.length) u = u := by
        rcases hideBehind_cases found with ⟨gone, there⟩ | ⟨-, s, -, rfl⟩
        · exact Classical.not_not.mp fun shown => alone ⟨i, u, gone, there, shown⟩
        · exact mask_mask _ s
      simp [hideBehind_getElem? (hideBehind l), found, hideBehind_length, still]

theorem uncrowded_hideBehind (l : List (List Char)) : ¬ Crowded (hideBehind l) := by
  rw [crowded_iff]
  rintro ⟨i, u, gone, found, shown⟩
  rw [hideBehind_length] at shown
  rcases hideBehind_cases found with ⟨before, -⟩ | ⟨-, s, -, rfl⟩
  · rw [taken_hideBehind before] at gone
    cases gone
  · exact shown (mask_mask _ s)

theorem mask_cases (last : Bool) (s : List Char) :
    mask last s = s ∨ mask last s = placeholder ∨ mask last s = placeholder ++ ['\n'] := by
  unfold mask
  split
  · exact .inr (.inl rfl)
  · split
    · exact .inr (.inr rfl)
    · exact .inl rfl

theorem hidden_head (l : List (List Char)) : (hidden l)[0]? = l[0]? := by
  cases l <;> rfl

theorem hidden_tail (l : List (List Char)) : (hidden l).tail = hideBehind l.tail := by
  cases l <;> rfl

theorem hidden_getElem?_succ (l : List (List Char)) (i : Nat) :
    (hidden l)[i + 1]? = (hideBehind l.tail)[i]? := by
  cases l with
  | nil => rfl
  | cons first rest => rfl

-- A segment that is neither hidden nor a placeholder has been there before.
theorem hidden_cases (found : (hidden l)[i]? = some u) :
    l[i]? = some u ∨ ∃ s last, l[i]? = some s ∧ u = mask last s := by
  cases i with
  | zero => exact .inl (hidden_head l ▸ found)
  | succ i =>
    rw [hidden_getElem?_succ] at found
    rcases hideBehind_cases found with ⟨-, there⟩ | ⟨-, s, there, same⟩
    · exact .inl (by simpa using there)
    · exact .inr ⟨s, _, by simpa using there, same⟩

theorem stem_plain : placeholder ∉ stem ∧ placeholder ++ ['\n'] ∉ stem := by decide +kernel

theorem hidden_plain (found : (hidden l)[i]? = some u) (plain : u ∈ stem) : l[i]? = some u := by
  rcases hidden_cases found with there | ⟨s, last, there, rfl⟩
  · exact there
  · rcases mask_cases last s with same | hides | hides
    · rw [same]
      exact there
    · exact absurd (hides ▸ plain) stem_plain.1
    · exact absurd (hides ▸ plain) stem_plain.2

-- The stem is there after a pass only where it has been before.
theorem hidden_stem (begins : (hidden l).take 3 = stem) : l.take 3 = stem := by
  refine List.ext_getElem? fun i => ?_
  rw [List.getElem?_take]
  by_cases inside : i < 3
  · rw [if_pos inside]
    have found : (hidden l)[i]? = stem[i]? := by
      rw [← begins, List.getElem?_take, if_pos inside]
    have bound : i < stem.length := inside
    rw [List.getElem?_eq_getElem bound] at found ⊢
    exact hidden_plain found (List.getElem_mem bound)
  · rw [if_neg inside, List.getElem?_eq_none (show stem.length ≤ i from Nat.le_of_not_lt inside)]

-- Behind the stem stands nothing, or a placeholder already.
def Named (l : List (List Char)) : Prop :=
  l.take 3 = stem → ∀ s, l[3]? = some s → s = [] ∨ s = placeholder

theorem nameChallenge_named (named : Named l) : nameChallenge l = l := by
  unfold nameChallenge
  split
  · rename_i behind
    obtain ⟨s, found, filled⟩ := (Option.any_eq_true _ _).mp behind.2
    rcases named behind.1 s found with rfl | rfl
    · simp at filled
    · exact List.ext_getElem? fun i => by
        by_cases here : 3 = i
        · rw [← here, List.getElem?_set_self (List.getElem?_eq_some_iff.mp found).1, found]
        · rw [List.getElem?_set_ne here]
  · rfl

theorem named_nameChallenge (l : List (List Char)) : Named (nameChallenge l) := by
  intro begins s found
  by_cases behind : l.take 3 = stem ∧ (l[3]?).any (· ≠ []) = true
  · rw [nameChallenge, if_pos behind] at found
    obtain ⟨t, there, -⟩ := (Option.any_eq_true _ _).mp behind.2
    rw [List.getElem?_set_self (List.getElem?_eq_some_iff.mp there).1] at found
    exact .inr (Option.some.inj found).symm
  · rw [nameChallenge, if_neg behind] at begins found
    refine .inl (Classical.not_not.mp fun filled => behind ⟨begins, ?_⟩)
    simpa [found] using filled

theorem mask_empty (last : Bool) : mask last [] = [] := by
  cases last <;> rfl

theorem mask_placeholder (last : Bool) : mask last placeholder = placeholder := by
  cases last <;> decide

theorem named_hidden (named : Named l) : Named (hidden l) := by
  intro begins u found
  rcases hidden_cases found with there | ⟨s, last, there, rfl⟩
  · exact named (hidden_stem begins) u there
  · rcases named (hidden_stem begins) s there with rfl | rfl
    · exact .inl (mask_empty last)
    · exact .inr (mask_placeholder last)

theorem nameChallenge_getElem? (other : ¬ (l.take 3 = stem ∧ i = 3)) :
    (nameChallenge l)[i]? = l[i]? := by
  unfold nameChallenge
  split
  · rename_i behind
    exact List.getElem?_set_ne fun here => other ⟨behind.1, here.symm⟩
  · rfl

theorem nameChallenge_length (l : List (List Char)) : (nameChallenge l).length = l.length := by
  unfold nameChallenge
  split
  · exact List.length_set
  · rfl

theorem hidden_length (l : List (List Char)) : (hidden l).length = l.length := by
  cases l with
  | nil => rfl
  | cons first rest => simp [hidden, hideBehind_length]

theorem hidden_other (before : l[i]? = some s) (plain : isNumber s = false)
    (whole : ¬ (i + 1 = l.length ∧ isBroken s = true)) : (hidden l)[i]? = some s := by
  cases i with
  | zero => rw [hidden_head, before]
  | succ i =>
    have behind : l.tail[i]? = some s := by simpa using before
    have same : mask (i + 1 == l.tail.length) s = s := by
      have last : ¬ ((i + 1 == l.tail.length && isBroken s) = true) := by
        simp only [List.length_tail, Bool.and_eq_true, beq_iff_eq]
        exact fun ending => whole ⟨by omega, ending.2⟩
      rw [mask, if_neg (by simp [plain]), if_neg last]
    rw [hidden_getElem?_succ, hideBehind_getElem?, behind, Option.map_some, same, ite_self]

theorem hidden_numbers : (∃ s ∈ hidden l, isNumber s = true) ↔
    (l.head?).any isNumber = true ∨ Neighbours l.tail := by
  cases l with
  | nil => simp [hidden, Neighbours]
  | cons first rest => simp [hidden, ← numbers_left]

theorem hidden_settled : hidden (hidden l) = hidden l ↔ ¬ Crowded l.tail := by
  rw [← settled_iff]
  cases l with
  | nil => simp [hidden, hideBehind]
  | cons first rest => simp [hidden]

-- The segments of a path once the id of a challenge has given way.
def parts (path : String) : List (List Char) := nameChallenge (segments path.toList)

theorem segments_normalize (path : String) :
    segments (normalize path).toList = hidden (parts path) := by
  rw [normalize, String.toList_ofList, segments_hideNumbers, segments_hideChallenge, parts]

theorem parts_normalize (path : String) : parts (normalize path) = hidden (parts path) := by
  rw [parts, segments_normalize]
  exact nameChallenge_named (named_hidden (named_nameChallenge _))

theorem normalize_settled (path : String) :
    normalize (normalize path) = normalize path ↔ ¬ Crowded (parts path).tail := by
  have again : segments (normalize (normalize path)).toList = hidden (hidden (parts path)) := by
    rw [segments_normalize, parts_normalize]
  rw [← hidden_settled, ← again, ← segments_normalize]
  exact ⟨fun same => by rw [same], fun same => String.toList_inj.mp (segments_inj same)⟩

theorem parts_kept {path : String} (before : (segments path.toList)[i]? = some s)
    (other : ¬ ((segments path.toList).take 3 = stem ∧ i = 3)) : (parts path)[i]? = some s := by
  rw [parts, nameChallenge_getElem? other, before]

theorem parts_length (path : String) : (parts path).length = (segments path.toList).length :=
  nameChallenge_length _

-- What `normalize` makes of a path: which segments change, which numbers are left and how many
-- passes it takes until nothing changes any more.
structure Normalized (path : String) : Prop where
  shown : segments (normalize path).toList = hidden (nameChallenge (segments path.toList))
  size : (segments (normalize path).toList).length = (segments path.toList).length
  kept : ∀ i s, (segments path.toList)[i]? = some s → isNumber s = false →
    ¬ ((segments path.toList).take 3 = stem ∧ i = 3) →
    ¬ (i + 1 = (segments path.toList).length ∧ isBroken s = true) →
    (segments (normalize path).toList)[i]? = some s
  numbers : (∃ s ∈ segments (normalize path).toList, isNumber s = true) ↔
    ((parts path).head?).any isNumber = true ∨ Neighbours (parts path).tail
  settled : normalize (normalize path) = normalize path ↔ ¬ Crowded (parts path).tail
  cleared : ∀ s ∈ (segments (normalize (normalize path)).toList).tail, isNumber s = false
  settles : normalize (normalize (normalize path)) = normalize (normalize path)

theorem normalize_exact (path : String) : Normalized path := by
  have twice : segments (normalize (normalize path)).toList = hidden (hidden (parts path)) := by
    rw [segments_normalize, parts_normalize]
  refine
    { shown := segments_normalize path
      size := ?_
      kept := fun i s before plain other whole => ?_
      numbers := ?_
      settled := normalize_settled path
      cleared := fun s inside => ?_
      settles := ?_ }
  · rw [segments_normalize, hidden_length, parts_length]
  · rw [segments_normalize]
    exact hidden_other (parts_kept before other) plain (parts_length path ▸ whole)
  · rw [segments_normalize]
    exact hidden_numbers
  · rw [twice, hidden_tail, hidden_tail] at inside
    have alone : ¬ Neighbours (hideBehind (parts path).tail) :=
      fun side => uncrowded_hideBehind _ side.crowded
    refine Bool.eq_false_iff.mpr fun number => alone (numbers_left.mp ⟨s, inside, number⟩)
  · rw [normalize_settled, parts_normalize, hidden_tail]
    exact uncrowded_hideBehind _

-- The first of two numbers takes the slash that the second would need.
theorem neighbour_stays :
    normalize "/1/2" = "/\x7bid\x7d/2" ∧
      isNumber "2".toList = true ∧ "2".toList ∈ segments (normalize "/1/2").toList ∧
      normalize (normalize "/1/2") ≠ normalize "/1/2" := by
  decide +kernel

end ScriptArena.Endpoint
