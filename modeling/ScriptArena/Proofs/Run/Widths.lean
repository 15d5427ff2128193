import Mathlib.Algebra.Ring.Nat
import Mathlib.Data.List.TakeWhile
import ScriptArena.Run.Guard

namespace ScriptArena
namespace Guard

-- The widths that are found in a template from some place on, one group behind each percent sign.
inductive Scans : List Char → List (List Width) → Prop where
  | nil : Scans [] []
  | skip {c : Char} {cs : List Char} {found : List (List Width)} (other : c ≠ '%')
      (scans : Scans cs found) : Scans (c :: cs) found
  | percent {cs rest : List Char} {ws : List Width} {found : List (List Width)}
      (read : readWidths cs = (ws, rest)) (scans : Scans rest found) :
      Scans ('%' :: cs) (ws :: found)

-- What is read behind the name, if there is one.
def readBare (cs : List Char) : List Width × List Char :=
  let (width, cs) := readWidth (cs.dropWhile Template.isFlag)
  match cs with
  | '.' :: rest =>
    let (precision, rest) := readWidth rest
    ([width, precision], rest)
  | cs => ([width], cs)

theorem readWidths_bare {cs : List Char} (bare : cs.head? ≠ some '(') :
    readWidths cs = readBare cs := by
  unfold readWidths
  split
  · exact absurd rfl bare
  · rfl

theorem readWidths_named {cs rest : List Char} {c : Char}
    (closed : cs.dropWhile (· ≠ ')') = c :: rest) : readWidths ('(' :: cs) = readBare rest := by
  unfold readWidths
  simp only [closed]
  rfl

theorem readWidths_unclosed {cs : List Char} (unclosed : cs.dropWhile (· ≠ ')') = []) :
    readWidths ('(' :: cs) = readBare ('(' :: cs) := by
  unfold readWidths
  simp only [unclosed]
  rfl

theorem takeWhile_free {p : Char → Bool} (percent : p '%' = false) (cs : List Char) :
    '%' ∉ cs.takeWhile p := by
  intro inside
  have holds := List.mem_takeWhile_imp inside
  rw [percent] at holds
  cases holds

theorem readWidth_splits (cs : List Char) :
    ∃ taken, cs = taken ++ (readWidth cs).2 ∧ '%' ∉ taken := by
  unfold readWidth
  split
  · exact ⟨['*'], rfl, by decide⟩
  · exact ⟨_, List.takeWhile_append_dropWhile.symm, takeWhile_free (by decide) _⟩

theorem readBare_splits (cs : List Char) :
    ∃ taken, cs = taken ++ (readBare cs).2 ∧ '%' ∉ taken := by
  have flags := List.takeWhile_append_dropWhile (p := Template.isFlag) (l := cs)
  have flagless := takeWhile_free (p := Template.isFlag) (by decide) cs
  obtain ⟨width, here, free⟩ := readWidth_splits (cs.dropWhile Template.isFlag)
  unfold readBare
  generalize readWidth (cs.dropWhile Template.isFlag) = read at here
  obtain ⟨w, rest⟩ := read
  dsimp only at here ⊢
  split
  · rename_i more
    obtain ⟨precision, there, also⟩ := readWidth_splits more
    refine ⟨cs.takeWhile Template.isFlag ++ (width ++ '.' :: precision), ?_, ?_⟩
    · rw [List.append_assoc, List.append_assoc, List.cons_append, ← there, ← here, flags]
    · simp [flagless, free, also]
  · refine ⟨cs.takeWhile Template.isFlag ++ width, ?_, ?_⟩
    · rw [List.append_assoc, ← here, flags]
    · simp [flagless, free]

-- What stands in the bracket that is opened at the beginning, up to the first that is closed.
def bracketed : List Char → List Char
  | '(' :: rest => rest.takeWhile (· ≠ ')')
  | _ => []

theorem readWidths_splits (cs : List Char) :
    ∃ taken, cs = taken ++ (readWidths cs).2 ∧ ('%' ∉ bracketed cs → '%' ∉ taken) := by
  have bare (cs : List Char) :
      ∃ taken, cs = taken ++ (readBare cs).2 ∧ ('%' ∉ bracketed cs → '%' ∉ taken) := by
    obtain ⟨taken, same, free⟩ := readBare_splits cs
    exact ⟨taken, same, fun _ => free⟩
  by_cases opened : cs.head? = some '('
  · obtain ⟨rest, rfl⟩ := List.head?_eq_some_iff.mp opened
    have whole := List.takeWhile_append_dropWhile (p := (· ≠ ')')) (l := rest)
    have closes := List.head?_dropWhile_not (· ≠ ')') rest
    cases closed : rest.dropWhile (· ≠ ')') with
    | nil =>
      rw [readWidths_unclosed closed]
      exact bare _
    | cons c more =>
      rw [closed] at whole closes
      obtain rfl : c = ')' := by simpa using closes
      rw [readWidths_named closed]
      obtain ⟨taken, same, free⟩ := readBare_splits more
      refine ⟨'(' :: (rest.takeWhile (· ≠ ')') ++ ')' :: taken), ?_, fun outside => ?_⟩
      · rw [List.cons_append, List.append_assoc, List.cons_append, ← same, whole]
      · have outside : '%' ∉ rest.takeWhile (· ≠ ')') := outside
        simp only [List.mem_cons, List.mem_append, not_or]
        exact ⟨by decide, outside, by decide, free⟩
  · rw [readWidths_bare opened]
    exact bare cs

theorem widths_scans {fuel : Nat} {cs : List Char} (enough : cs.length < fuel)
    (found : List (List Width)) :
    ∃ more, Scans cs more ∧ widths fuel cs found = found.reverse ++ more := by
  induction fuel generalizing cs found with
  | zero => cases enough
  | succ fuel ih =>
    cases cs with
    | nil => exact ⟨[], .nil, by simp [widths]⟩
    | cons c cs =>
      rw [List.length_cons] at enough
      by_cases percent : c = '%'
      · subst percent
        obtain ⟨taken, same, _⟩ := readWidths_splits cs
        cases read : readWidths cs with
        | mk ws rest =>
          rw [read] at same
          dsimp only at same
          have shorter : rest.length < fuel := by
            rw [same, List.length_append] at enough
            omega
          obtain ⟨more, scans, later⟩ := ih shorter (ws :: found)
          refine ⟨ws :: more, .percent read scans, ?_⟩
          rw [widths, read]
          dsimp only
          rw [later, List.reverse_cons, List.append_assoc]
          rfl
      · obtain ⟨more, scans, later⟩ := @ih cs (by omega) found
        refine ⟨more, .skip percent scans, ?_⟩
        rw [widths, later]
        rintro rfl
        exact percent rfl

theorem scans_unique {cs : List Char} {found more : List (List Width)} (scans : Scans cs found)
    (again : Scans cs more) : found = more := by
  induction scans generalizing more with
  | nil =>
    cases again
    rfl
  | skip other scans ih =>
    cases again with
    | skip _ again => exact ih again
    | percent => exact absurd rfl other
  | percent read scans ih =>
    cases again with
    | skip other => exact absurd rfl other
    | percent same again =>
      rw [read] at same
      cases same
      rw [ih again]

theorem scans_behind {taken rest : List Char} {found : List (List Width)} (free : '%' ∉ taken)
    (scans : Scans (taken ++ rest) found) : Scans rest found := by
  induction taken with
  | nil => exact scans
  | cons c taken ih =>
    obtain ⟨other, free⟩ : '%' ≠ c ∧ '%' ∉ taken := by simpa using free
    cases scans with
    | skip _ scans => exact ih free scans
    | percent => exact absurd rfl other

theorem scans_before {taken rest : List Char} {found : List (List Width)} (free : '%' ∉ taken)
    (scans : Scans rest found) : Scans (taken ++ rest) found := by
  induction taken with
  | nil => exact scans
  | cons c taken ih =>
    obtain ⟨other, free⟩ : '%' ≠ c ∧ '%' ∉ taken := by simpa using free
    exact .skip (Ne.symm other) (ih free)

-- Behind the first of two percent signs there is nothing, so that the second begins a width as well.
theorem scans_percents {rest : List Char} {found : List (List Width)} (free : '%' ∉ bracketed rest)
    (scans : Scans ('%' :: '%' :: rest) found) :
    ∃ ws more, found = [.digits []] :: ws :: more ∧ Scans rest more := by
  have first : readWidths ('%' :: rest) = ([.digits []], '%' :: rest) := by
    rw [readWidths_bare (by simp)]
    have percent : Template.isFlag '%' = false ∧ Text.isDecimal '%' = false := by decide
    simp [readBare, readWidth, percent]
  cases scans with
  | skip other => exact absurd rfl other
  | percent same scans =>
    rw [first] at same
    cases same
    cases scans with
    | skip other => exact absurd rfl other
    | percent same scans =>
      obtain ⟨taken, whole, outside⟩ := readWidths_splits rest
      rw [same] at whole
      refine ⟨_, _, rfl, ?_⟩
      rw [whole]
      exact scans_before (outside free) scans

def Width.value : Width → Nat
  | .star => 0
  | .digits ds => ds.foldl (fun n d => 10 * n + d) 0

def total (found : List (List Width)) : Nat := (found.flatten.map Width.value).sum

def NoStar (found : List (List Width)) : Prop := ∀ w ∈ found.flatten, w.isStar = false

theorem total_cons (ws : List Width) (found : List (List Width)) :
    total (ws :: found) = (ws.map Width.value).sum + total found := by
  simp [total]

theorem noStar_cons {ws : List Width} {found : List (List Width)} (starless : NoStar (ws :: found)) :
    (∀ w ∈ ws, w.isStar = false) ∧ NoStar found := by
  simpa [NoStar, or_imp, forall_and] using starless

theorem addWidth_value {l : Limits} {size n : Nat} {w : Width} (added : addWidth l size w = .ok n) :
    n = size + w.value := by
  cases w with
  | star =>
    cases added
    rfl
  | digits ds =>
    obtain ⟨m, read, added⟩ := bind_eq_ok.mp added
    unfold readDigits at read
    split at read
    · cases read
    · cases read
      dsimp only at added
      split at added
      · cases added
      · cases added
        rfl

theorem addWidth_values {l : Limits} {size n : Nat} {ws : List Width}
    (added : ws.foldlM (addWidth l) size = .ok n) : n = size + (ws.map Width.value).sum := by
  induction ws generalizing size with
  | nil =>
    cases added
    rfl
  | cons w rest ih =>
    rw [List.foldlM_cons] at added
    obtain ⟨m, first, added⟩ := bind_eq_ok.mp added
    have others := ih added
    have own := addWidth_value first
    simp only [List.map_cons, List.sum_cons]
    omega

theorem addWidths_total {l : Limits} {size n : Nat} {found : List (List Width)}
    (added : found.foldlM (addWidths l) size = .ok n) : n = size + total found ∧ NoStar found := by
  induction found generalizing size with
  | nil =>
    cases added
    exact ⟨rfl, List.forall_mem_nil _⟩
  | cons ws rest ih =>
    rw [List.foldlM_cons] at added
    obtain ⟨m, first, added⟩ := bind_eq_ok.mp added
    obtain ⟨others, free⟩ := ih added
    unfold addWidths at first
    split at first
    · cases first
    · rename_i plain
      have own := addWidth_values first
      refine ⟨?_, fun w inside => ?_⟩
      · rw [total_cons]
        omega
      · rw [List.flatten_cons] at inside
        rcases List.mem_append.mp inside with here | there
        · simp only [List.any_eq_true, not_exists, not_and, Bool.not_eq_true] at plain
          exact plain w here
        · exact free w there

theorem addWidths_none {l : Limits} (room : 0 ≤ l.maxSequenceLength) (k size : Nat) :
    (List.replicate k [Width.digits []]).foldlM (addWidths l) size = .ok size := by
  have within : ¬ l.maxSequenceLength < ((0 : Nat) : Int) := by omega
  have zero : readDigits [] = .ok 0 := rfl
  have none : addWidths l size [.digits []] = .ok size := by
    simp only [addWidths, List.any_cons, List.any_nil, Width.isStar, Bool.or_false,
      Bool.false_eq_true, if_false, List.foldlM_cons, List.foldlM_nil, addWidth, zero, bind,
      Except.bind, if_neg within]
    rfl
  induction k with
  | zero => rfl
  | succ k ih =>
    rw [List.replicate_succ, List.foldlM_cons, none]
    exact ih

end Guard
end ScriptArena
