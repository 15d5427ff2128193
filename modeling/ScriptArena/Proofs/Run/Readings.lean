import Mathlib.Data.List.Basic
import ScriptArena.Proofs.Run.Widths
import ScriptArena.Proofs.Value.Templates

namespace ScriptArena
namespace Template

-- Behind two percent signs no other is in brackets, and no name has a bracket in it.
def isClear : List Char → Bool
  | [] => true
  | '%' :: '%' :: rest => !(Guard.bracketed rest).contains '%' && isClear rest
  | '%' :: rest => !(Guard.bracketed rest).contains '(' && isClear rest
  | _ :: rest => isClear rest

theorem isClear_cons {c : Char} {rest : List Char} (other : c ≠ '%') : isClear (c :: rest) = isClear rest := by
  rw [isClear]
  · rintro _ rfl
    exact absurd rfl other
  · rintro rfl
    exact absurd rfl other

theorem isClear_percents {rest : List Char} (clear : isClear ('%' :: '%' :: rest)) :
    '%' ∉ Guard.bracketed rest ∧ isClear rest := by
  simpa [isClear] using clear

theorem isClear_percent {cs : List Char} (single : cs.head? ≠ some '%') (clear : isClear ('%' :: cs)) :
    '(' ∉ Guard.bracketed cs ∧ isClear cs := by
  rw [isClear] at clear
  · simpa using clear
  · rintro _ rfl
    exact single rfl

theorem isClear_skip {taken rest : List Char} (free : '%' ∉ taken) (clear : isClear (taken ++ rest)) :
    isClear rest := by
  induction taken with
  | nil => exact clear
  | cons c taken ih =>
    obtain ⟨other, free⟩ : '%' ≠ c ∧ '%' ∉ taken := by simpa using free
    rw [List.cons_append, isClear_cons (Ne.symm other)] at clear
    exact ih free clear

theorem isClear_behind {taken rest : List Char} {c : Char} (other : c ≠ '%')
    (clear : isClear (taken ++ c :: rest)) : isClear rest := by
  induction taken using isClear.induct with
  | case1 => rwa [List.nil_append, isClear_cons other] at clear
  | case2 taken ih => exact ih (isClear_percents clear).2
  | case3 taken single ih =>
    refine ih (isClear_percent ?_ clear).2
    cases taken with
    | nil => simpa using other
    | cons d more =>
      rintro same
      cases same
      exact single more rfl
  | case4 d taken _ percent ih =>
    rw [List.cons_append, isClear_cons percent] at clear
    exact ih clear

theorem readName_first {cs acc name rest : List Char} (simple : '(' ∉ cs.takeWhile (· ≠ ')'))
    (read : readName 0 cs acc = .ok (name, rest)) : cs.dropWhile (· ≠ ')') = ')' :: rest := by
  induction cs generalizing acc with
  | nil => cases read
  | cons c cs ih =>
    by_cases closed : c = ')'
    · subst closed
      cases read
      rfl
    · have more : decide (c ≠ ')') = true := decide_eq_true closed
      rw [List.takeWhile_cons, if_pos more] at simple
      rw [List.dropWhile_cons, if_pos more]
      obtain ⟨other, simple⟩ : '(' ≠ c ∧ '(' ∉ cs.takeWhile (· ≠ ')') := by simpa using simple
      refine @ih (c :: acc) simple ?_
      unfold readName at read
      split at read
      · exact absurd rfl closed
      · exact absurd rfl closed
      · exact absurd rfl other
      · exact read

-- No digit of any script stands next.
def Stops (cs : List Char) : Prop := ∀ c, cs.head? = some c → Text.isDecimal c = false

theorem decimalValue?_of_isDigit {c : Char} (digit : c.isDigit) :
    Text.decimalValue? c = some (c.toNat - 48) := by
  obtain ⟨low, high⟩ : '0' ≤ c ∧ c ≤ '9' := by simpa [Char.isDigit, Char.le_def] using digit
  exact Text.decimalValue?_of_ascii low high

-- Both readings take the same digits, and the same number from them.
theorem readWidth_reads {digits rest : List Char} {n : Nat} (reads : Reads digits n)
    (stops : Stops rest) (plain : (digits ++ rest).head? ≠ some '*') :
    ∃ w, Guard.readWidth (digits ++ rest) = (w, rest) ∧ n = w.value := by
  obtain ⟨all, rfl⟩ := reads
  have decimal : ∀ c ∈ digits, Text.isDecimal c := fun c inside => by
    rw [Text.isDecimal, decimalValue?_of_isDigit (all c inside)]
    rfl
  have ends : rest.takeWhile Text.isDecimal = [] ∧ rest.dropWhile Text.isDecimal = rest := by
    cases rest with
    | nil => exact ⟨rfl, rfl⟩
    | cons c rest =>
      have other := stops c rfl
      simp [other]
  have values : digits.filterMap Text.decimalValue? = digits.map (fun c => c.toNat - 48) := by
    rw [← List.filterMap_eq_map]
    exact List.filterMap_congr fun c inside => decimalValue?_of_isDigit (all c inside)
  refine ⟨.digits (digits.filterMap Text.decimalValue?), ?_, ?_⟩
  · unfold Guard.readWidth
    split
    · rename_i same
      rw [same] at plain
      exact absurd rfl plain
    · rw [List.takeWhile_append_of_pos decimal, List.dropWhile_append_of_pos decimal, ends.1, ends.2,
        List.append_nil]
  · simp only [Guard.Width.value, values, List.foldl_map, Nat.mul_comm 10]

theorem readWidth_meets {s t : Supply} {cs rest : List Char} {width : Option Int}
    (read : readWidth s cs = .ok (width, t, rest)) (stops : Stops rest) :
    ∃ w, Guard.readWidth cs = (w, rest) ∧
      (w.isStar = false → (width.map Int.natAbs).getD 0 = w.value) := by
  rcases readWidth_cases read with ⟨rfl, _⟩ | ⟨_, plain, digits, rfl, reads⟩
  · exact ⟨.star, rfl, fun plain => nomatch plain⟩
  · obtain ⟨w, same, value⟩ := readWidth_reads reads stops plain
    exact ⟨w, same, fun _ => value⟩

theorem readBare_meets {s t u : Supply} {bare middle rest : List Char} {width : Option Int}
    {precision : Option Nat} (wide : readWidth s (bare.dropWhile isFlag) = .ok (width, t, middle))
    (precise : readPrecision .text t middle = .ok (precision, u, rest)) (stops : Stops rest) :
    ∃ ws, Guard.readBare bare = (ws, rest) ∧ ((∀ w ∈ ws, w.isStar = false) →
      (width.map Int.natAbs).getD 0 + precision.getD 0 = (ws.map Guard.Width.value).sum) := by
  have pointed (more : List Char) : Stops ('.' :: more) := by
    rintro c ⟨⟩
    decide
  rcases readPrecision_cases precise with
    ⟨rfl, _⟩ | ⟨_, digits, rfl, plain, reads⟩ | ⟨_, rfl, bald, rfl⟩
  · obtain ⟨w, first, _⟩ := readWidth_meets wide (pointed _)
    refine ⟨[w, .star], ?_, fun plain => nomatch plain .star (by simp)⟩
    simp only [Guard.readBare, first]
    rfl
  · obtain ⟨w, first, wider⟩ := readWidth_meets wide (pointed _)
    obtain ⟨v, second, value⟩ := readWidth_reads reads stops plain
    refine ⟨[w, v], by simp only [Guard.readBare, first, second], fun starless => ?_⟩
    have own := wider (starless w (by simp))
    simp only [List.map_cons, List.map_nil, List.sum_cons, List.sum_nil]
    omega
  · obtain ⟨w, first, wider⟩ := readWidth_meets wide stops
    refine ⟨[w], ?_, fun starless => ?_⟩
    · simp only [Guard.readBare, first]
      split
      · exact absurd rfl bald
      · rfl
    · have own := wider (starless w (by simp))
      simp only [List.map_cons, List.map_nil, List.sum_cons, List.sum_nil, Option.getD_none]
      omega

theorem readSource_meets {h : Heap} {s t : Supply} {cs bare : List Char}
    (simple : '(' ∉ Guard.bracketed cs) (read : readSource h .text s cs = .ok (t, bare)) :
    Guard.readWidths cs = Guard.readBare bare := by
  rcases readSource_cases read with ⟨bald, rfl, _⟩ | ⟨rest, name, rfl, named, _⟩
  · exact Guard.readWidths_bare bald
  · exact Guard.readWidths_named (readName_first simple named)

-- The kinds that texts know.
def kinds : List Char := ['s', 'r', 'a', 'c'] ++ "diuoxX".toList ++ "eEfFgG".toList

-- None of them is read as anything else.
theorem kinds_plain {kind : Char} (known : kind ∈ kinds) :
    kind ≠ '%' ∧ kind ≠ '(' ∧ kind ≠ '*' ∧ kind ≠ '.' ∧ isFlag kind = false ∧ kind.isDigit = false ∧
      Text.isDecimal kind = false ∧ (kind = 'h' || kind = 'l' || kind = 'L') = false := by
  have all : kinds.all (fun c => c != '%' && c != '(' && c != '*' && c != '.' && !isFlag c &&
      !c.isDigit && !Text.isDecimal c && !(c = 'h' || c = 'l' || c = 'L')) := by decide
  have plain := List.all_eq_true.mp all kind known
  simpa [and_assoc] using plain

theorem showValue_known {h : Heap} {d : Directive} {index : Nat} {v : Value} {shown : Shown}
    (shows : showValue h .text d index v = .ok shown) : d.kind ∈ kinds := by
  rw [kinds, List.mem_append, List.mem_append]
  rcases showValue_cases shows with
    ⟨same, _⟩ | ⟨same, _⟩ | ⟨same, _⟩ | ⟨same, _⟩ | ⟨whole, _⟩ | ⟨real, _⟩
  · exact .inl (.inl (by simp [same]))
  · exact .inl (.inl (by simp [same]))
  · exact .inl (.inl (by simp [same]))
  · exact .inl (.inl (by simp [same]))
  · exact .inl (.inr whole)
  · exact .inr real

theorem skipSize_meets {cs rest : List Char} {kind : Char} (skipped : skipSize cs = kind :: rest)
    (known : kind ∈ kinds) : Stops cs ∧ ∃ size, cs = size ++ kind :: rest ∧ '%' ∉ size := by
  have undecimal : Text.isDecimal kind = false := (kinds_plain known).2.2.2.2.2.2.1
  have letters (c : Char) (size : c ∈ ['h', 'l', 'L']) : c ≠ '%' ∧ Text.isDecimal c = false := by
    have all : ['h', 'l', 'L'].all (fun c => c != '%' && !Text.isDecimal c) := by decide
    simpa using List.all_eq_true.mp all c size
  cases cs with
  | nil => cases skipped
  | cons c cs =>
    simp only [skipSize] at skipped
    split at skipped
    · rename_i size
      obtain ⟨other, undigit⟩ := letters c (by simpa [or_assoc] using size)
      refine ⟨?_, [c], by rw [skipped]; rfl, by simpa using Ne.symm other⟩
      rintro d ⟨⟩
      exact undigit
    · cases skipped
      refine ⟨?_, [], rfl, by simp⟩
      rintro d ⟨⟩
      exact undecimal

theorem readDirective_meets {h : Heap} {s t : Supply} {cs rest : List Char} {d : Directive}
    (simple : '(' ∉ Guard.bracketed cs) (read : readDirective h .text s cs = .ok (d, t, rest))
    (known : d.kind ∈ kinds) :
    ∃ ws size, Guard.readWidths cs = (ws, size ++ d.kind :: rest) ∧ '%' ∉ size ∧
      ((∀ w ∈ ws, w.isStar = false) →
        d.width.getD 0 + d.precision.getD 0 = (ws.map Guard.Width.value).sum) := by
  obtain ⟨s₁, bare, width, s₂, middle, last, source, wide, precise, skipped, natural⟩ :=
    readDirective_steps read
  obtain ⟨stops, size, same, free⟩ := skipSize_meets skipped known
  obtain ⟨ws, meets, sums⟩ := readBare_meets wide precise stops
  rw [natural]
  exact ⟨ws, size, by rw [readSource_meets simple source, meets, same], free, sums⟩

-- What a directive asks for in addition to its value.
def room (d : Directive) : Nat := d.width.getD 0 + d.precision.getD 0

-- All widths of the directives are found; what is found besides them does no harm.
theorem filled_room {h : Heap} {cs : List Char} {s : Supply} {us : List (Directive × Value)}
    {pieces : List (List Char)} {found : List (List Guard.Width)} (filled : Filled h cs s us pieces)
    (clear : isClear cs) (scans : Guard.Scans cs found) (starless : Guard.NoStar found) :
    (us.map (room ·.1)).sum ≤ Guard.total found := by
  induction filled generalizing found with
  | nil => exact Nat.zero_le _
  | @percents rest s us pieces filled ih =>
    obtain ⟨free, clear⟩ := isClear_percents clear
    obtain ⟨ws, more, rfl, later⟩ := Guard.scans_percents free scans
    have others := ih clear later (Guard.noStar_cons (Guard.noStar_cons starless).2).2
    simp only [Guard.total_cons]
    omega
  | @directive cs rest s t u d v index shown us pieces single read took shows filled ih =>
    obtain ⟨simple, behind⟩ := isClear_percent single clear
    have known := showValue_known shows
    have other := (kinds_plain known).1
    obtain ⟨ws, size, widths, free, sums⟩ := readDirective_meets simple read known
    obtain ⟨taken, rfl⟩ := readDirective_suffix read
    cases scans with
    | skip percent => exact absurd rfl percent
    | percent same scans =>
      rw [widths] at same
      cases same
      obtain ⟨own, starless⟩ := Guard.noStar_cons starless
      have ends : '%' ∉ size ++ [d.kind] := by simp [free, Ne.symm other]
      have scans := Guard.scans_behind ends (by simpa using scans)
      have others := ih (isClear_behind other behind) scans starless
      have same := sums own
      rw [Guard.total_cons, List.map_cons, List.sum_cons, room, same]
      omega
  | @plain c cs s us pieces other filled ih =>
    rw [isClear_cons other] at clear
    have free : '%' ∉ cs.takeWhile (· ≠ '%') := Guard.takeWhile_free (by decide) cs
    have whole := List.takeWhile_append_dropWhile (p := (· ≠ '%')) (l := cs)
    cases scans with
    | percent => exact absurd rfl other
    | skip _ scans =>
      rw [← whole] at clear scans
      exact ih (isClear_skip free clear) (Guard.scans_behind free scans) starless

end Template
end ScriptArena
