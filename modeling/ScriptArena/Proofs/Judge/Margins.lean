import ScriptArena.Proofs.Judge.Shortcuts
import ScriptArena.Proofs.Script.Margins

namespace ScriptArena

open Script (isIndent spread hanging indented)

namespace Text

-- Line ends may be followed by different indents.
inductive Alike : List Char → List Char → Prop where
  | nil : Alike [] []
  | same (c : Char) {cs ds : List Char} (rest : Alike cs ds) : Alike (c :: cs) (c :: ds)
  | line {u v cs ds : List Char} (one : u.all isIndent) (other : v.all isIndent)
      (rest : Alike cs ds) : Alike ('\n' :: (u ++ cs)) ('\n' :: (v ++ ds))

variable {w part cs ds : List Char}

theorem Alike.symm (alike : Alike cs ds) : Alike ds cs := by
  induction alike with
  | nil => exact .nil
  | same c _ ih => exact .same c ih
  | line one other _ ih => exact .line other one ih

theorem alike_spread (margin : w.all isIndent) (cs : List Char) : Alike cs (spread w cs) := by
  induction cs with
  | nil => exact .nil
  | cons c cs ih =>
    rw [Script.spread_cons]
    split
    · rename_i ends
      have leading : (Script.leading w cs).all isIndent := by
        unfold Script.leading
        split
        · rfl
        · exact margin
      exact ends ▸ .line (u := []) rfl leading ih
    · exact .same c ih

theorem alike_head (alike : Alike cs ds) : ds.head? = cs.head? := by
  cases alike with
  | nil | same | line => rfl

-- A text can be cut in front of whatever does not belong to a margin.
theorem alike_cut {d : Char} {ahead behind : List Char} (visible : isIndent d = false ∧ d ≠ '\n')
    (alike : Alike (ahead ++ d :: behind) ds) :
    ∃ ahead' behind', ds = ahead' ++ d :: behind' ∧ Alike ahead ahead' ∧ Alike behind behind' := by
  generalize whole : ahead ++ d :: behind = cs at alike
  induction alike generalizing ahead with
  | nil => simp at whole
  | @same c cs ds rest ih =>
    cases ahead with
    | nil =>
      cases whole
      exact ⟨[], ds, rfl, .nil, rest⟩
    | cons c' ahead =>
      obtain ⟨rfl, later⟩ := List.cons_eq_cons.mp whole
      obtain ⟨ahead', behind', rfl, front, back⟩ := ih later
      exact ⟨c' :: ahead', behind', rfl, .same c' front, back⟩
  | @line u v cs ds one other rest ih =>
    cases ahead with
    | nil =>
      cases whole
      exact absurd rfl visible.2
    | cons c' ahead =>
      obtain ⟨rfl, later⟩ := List.cons_eq_cons.mp whole
      rcases List.append_eq_append_iff.mp later with ⟨more, inside, left⟩ | ⟨more, rfl, left⟩
      · cases more with
        | nil =>
          have begins : [] ++ d :: behind = cs := left
          obtain ⟨ahead', behind', rfl, front, back⟩ := ih begins
          have here : u = ahead := by simpa using inside
          refine ⟨'\n' :: (v ++ ahead'), behind', by simp, ?_, back⟩
          have both := Alike.line one other front
          rwa [List.append_nil, here] at both
        | cons e more =>
          obtain ⟨rfl, -⟩ := List.cons_eq_cons.mp left
          have indent := List.all_eq_true.mp one d (inside ▸ by simp)
          exact absurd (visible.1.symm.trans indent) (by simp)
      · obtain ⟨ahead', behind', rfl, front, back⟩ := ih left.symm
        exact ⟨'\n' :: (v ++ ahead'), behind', by simp, .line one other front, back⟩

theorem alike_part (single : '\n' ∉ part) (alike : Alike (part ++ cs) ds) :
    ∃ ds', ds = part ++ ds' ∧ Alike cs ds' := by
  induction part generalizing ds with
  | nil => exact ⟨ds, rfl, alike⟩
  | cons c part ih =>
    generalize whole : c :: part ++ cs = text at alike
    cases alike with
    | nil => cases whole
    | same _ rest =>
      obtain ⟨rfl, rfl⟩ := List.cons_eq_cons.mp whole
      obtain ⟨ds', rfl, alike⟩ := ih (fun inside => single (List.mem_cons_of_mem _ inside)) rest
      exact ⟨ds', rfl, alike⟩
    | line =>
      obtain ⟨rfl, -⟩ := List.cons_eq_cons.mp whole
      exact absurd List.mem_cons_self single

theorem infix_alike {d : Char} (visible : isIndent d = false) (single : '\n' ∉ d :: part)
    (alike : Alike cs ds) (inside : d :: part <:+: cs) : d :: part <:+: ds := by
  obtain ⟨ahead, behind, rfl⟩ := inside
  rw [List.append_assoc, List.cons_append] at alike
  have inner : d ≠ '\n' := fun same => single (same ▸ List.mem_cons_self)
  obtain ⟨ahead', rest, rfl, -, back⟩ := alike_cut ⟨visible, inner⟩ alike
  obtain ⟨behind', rfl, -⟩ := alike_part (fun inside => single (List.mem_cons_of_mem _ inside)) back
  exact ⟨ahead', behind', by simp⟩

theorem hasPart_alike {d : Char} (visible : isIndent d = false) (single : '\n' ∉ d :: part)
    (alike : Alike cs ds) : hasPart (d :: part) cs = hasPart (d :: part) ds := by
  rw [Bool.eq_iff_iff, hasPart_iff, hasPart_iff]
  exact ⟨infix_alike visible single alike, infix_alike visible single alike.symm⟩

theorem lines_alike (alike : Alike cs ds) :
    (ds.filter (· = '\n')).length = (cs.filter (· = '\n')).length := by
  have none {u : List Char} (indent : u.all isIndent) : u.filter (· = '\n') = [] := by
    refine List.filter_eq_nil_iff.mpr fun c inside ends => ?_
    have blank := List.all_eq_true.mp indent c inside
    rw [of_decide_eq_true ends] at blank
    cases blank
  induction alike with
  | nil => rfl
  | same c _ ih =>
    rw [List.filter_cons, List.filter_cons]
    split
    · exact congrArg (· + 1) ih
    · exact ih
  | line one other _ ih => simp [none one, none other, ih]

end Text

namespace Increment
open Text

variable {var cs ds before after before' after' s b : List Char} {d : Char}

theorem blank_alike (blank : Blank cs) (alike : Alike cs ds) : Blank ds := by
  induction alike with
  | nil => exact blank
  | same c _ ih =>
    obtain ⟨here, others⟩ := List.forall_mem_cons.mp blank
    exact List.forall_mem_cons.mpr ⟨here, ih others⟩
  | line _ other _ ih =>
    obtain ⟨here, others⟩ := List.forall_mem_cons.mp blank
    have rest := ih (List.forall_mem_append.mp others).2
    have indent c inside := Script.isBlank_indent (List.all_eq_true.mp other c inside)
    exact List.forall_mem_cons.mpr ⟨here, List.forall_mem_append.mpr ⟨indent, rest⟩⟩

theorem visible_word (word : isWordChar d = true) : isIndent d = false ∧ d ≠ '\n' := by
  refine ⟨Bool.eq_false_iff.mpr fun indent => ?_, ?_⟩
  · rcases Script.isIndent_iff.mp indent with rfl | rfl
    · cases word
    · cases word
  · rintro rfl
    cases word

-- Does a word go on here?
def WordEnd (before : List Char) : Prop := ∃ front c, before = front ++ [c] ∧ isWordChar c = true

theorem wordEnd_iff : before.getLast?.any isWordChar = true ↔ WordEnd before := by
  rcases List.eq_nil_or_concat before with rfl | ⟨front, c, rfl⟩
  · simp [WordEnd]
  · simp [WordEnd]

theorem wordEnd_alike (alike : Alike before before') (ends : WordEnd before) : WordEnd before' := by
  obtain ⟨front, c, rfl, word⟩ := ends
  obtain ⟨front', rest, rfl, -, back⟩ := alike_cut (visible_word word) alike
  cases back
  exact ⟨front', c, rfl, word⟩

theorem atEdge_alike (ahead : Alike before before') (behind : Alike after after') :
    AtEdge before after ↔ AtEdge before' after' := by
  have last : before.getLast?.any isWordChar = before'.getLast?.any isWordChar := by
    rw [Bool.eq_iff_iff, wordEnd_iff, wordEnd_iff]
    exact ⟨wordEnd_alike ahead, wordEnd_alike ahead.symm⟩
  unfold AtEdge
  rw [last, alike_head behind]

-- A word, and the blanks between it and whatever comes next.
theorem alike_word {part behind : List Char} (single : '\n' ∉ part) (blank : Blank s)
    (visible : isIndent d = false ∧ d ≠ '\n') (alike : Alike (part ++ (s ++ d :: behind)) ds) :
    ∃ s' behind', ds = part ++ (s' ++ d :: behind') ∧ Blank s' ∧ Alike behind behind' := by
  obtain ⟨rest, rfl, more⟩ := alike_part single alike
  obtain ⟨s', behind', rfl, front, back⟩ := alike_cut visible more
  exact ⟨s', behind', rfl, blank_alike blank front, back⟩

section

variable (word : ∀ c ∈ var, isWordChar c = true)
include word

theorem word_single : '\n' ∉ var := by
  intro inside
  exact (visible_word (word _ inside)).2 rfl

theorem step_alike {step rest : List Char} (named : var ≠ []) (steps : Step var step)
    (alike : Alike (step ++ rest) ds) :
    ∃ step' rest', ds = step' ++ rest' ∧ Step var step' ∧ Alike rest rest' := by
  have single := word_single word
  cases steps with
  | @short s₁ s₂ b₁ b₂ =>
    have first : Alike (var ++ (s₁ ++ '+' :: (['='] ++ (s₂ ++ '1' :: rest)))) ds := by
      simpa using alike
    obtain ⟨s₁', _, rfl, b₁, second⟩ := alike_word single b₁ (by decide) first
    obtain ⟨s₂', rest', rfl, b₂, last⟩ := alike_word (by decide) b₂ (by decide) second
    exact ⟨_, rest', by simp, .short b₁ b₂, last⟩
  | @long s₁ s₂ s₃ s₄ b₁ b₂ b₃ b₄ =>
    obtain ⟨v, var', rfl⟩ := List.exists_cons_of_ne_nil named
    have visible := visible_word (word v List.mem_cons_self)
    have other : '\n' ∉ var' := fun inside => single (List.mem_cons_of_mem _ inside)
    have first : Alike ((v :: var') ++ (s₁ ++ '=' :: ([] ++ (s₂ ++ v :: (var' ++ (s₃ ++ '+' ::
        ([] ++ (s₄ ++ '1' :: rest)))))))) ds := by simpa using alike
    obtain ⟨s₁', _, rfl, b₁, second⟩ := alike_word single b₁ (by decide) first
    obtain ⟨s₂', _, rfl, b₂, third⟩ := alike_word List.not_mem_nil b₂ visible second
    obtain ⟨s₃', _, rfl, b₃, fourth⟩ := alike_word other b₃ (by decide) third
    obtain ⟨s₄', rest', rfl, b₄, last⟩ := alike_word List.not_mem_nil b₄ (by decide) fourth
    exact ⟨_, rest', by simp, .long b₁ b₂ b₃ b₄, last⟩

omit word in
theorem Step.last {step : List Char} (steps : Step var step) (before : List Char) :
    (before ++ step).getLast? = some '1' := by
  cases steps with
  | short => rw [← List.append_assoc, List.getLast?_concat]
  | long => rw [← List.append_assoc, List.getLast?_concat]

theorem counts_alike (named : var ≠ []) (alike : Alike cs ds) (counts : Counts var cs) :
    Counts var ds := by
  obtain ⟨before, _, rfl, step, rest, rfl, steps, first, last⟩ := counts
  obtain ⟨v, var', rfl⟩ := List.exists_cons_of_ne_nil named
  obtain ⟨tail, begins⟩ : ∃ tail, step ++ rest = v :: tail := by
    cases steps with
    | short => exact ⟨_, rfl⟩
    | long => exact ⟨_, rfl⟩
  have visible := visible_word (word v List.mem_cons_self)
  rw [begins] at alike
  obtain ⟨before', tail', rfl, front, back⟩ := alike_cut visible alike
  have whole : Alike (step ++ rest) (v :: tail') := begins ▸ .same v back
  have edge := (atEdge_alike front whole).mp first
  obtain ⟨step', rest', split, steps', behind⟩ := step_alike word named steps whole
  refine ⟨before', v :: tail', rfl, step', rest', split, steps', edge, ?_⟩
  have same : AtEdge (before ++ step) rest ↔ AtEdge (before' ++ step') rest' := by
    unfold AtEdge
    rw [steps.last, steps'.last, alike_head behind]
  exact same.mp last

end

theorem occursIn_alike {name code text : String} (named : name ≠ "")
    (word : ∀ c ∈ name.toList, isWordChar c = true) (alike : Alike code.toList text.toList) :
    occursIn name code = occursIn name text := by
  have some : name.toList ≠ [] := by simpa using named
  rw [Bool.eq_iff_iff, occursIn_iff, occursIn_iff]
  exact ⟨counts_alike word some alike, counts_alike word some alike.symm⟩

end Increment

namespace Judge
open Text

variable {c : Challenge} {l : Limits} {tests : List TestCase} {w : List Char} {source code : String}

-- What is held against a text, and what becomes of one that nothing is held against.
def objection? (c : Challenge) (code : String) : Option Verdict :=
  (precheck? code).or (increment? c code)

def outcomes (c : Challenge) (l : Limits) (tests : List TestCase) (code : String) : List Verdict :=
  match Script.Program.compile code l.names with
  | .error r => [.malformed (rejectionText r)]
  | .ok p => run c p l tests

theorem evaluate_outcomes (c : Challenge) (l : Limits) (source : String) (tests : List TestCase) :
    evaluate c l source tests =
      match objection? c (trim source) with
      | some v => [v]
      | none => outcomes c l tests (trim source) := by
  unfold evaluate objection? outcomes
  dsimp only
  cases precheck? (trim source) with
  | some v => rfl
  | none =>
    cases increment? c (trim source) with
    | some v => rfl
    | none =>
      cases Script.Program.compile (trim source) l.names with
      | error r => rfl
      | ok p => rfl

theorem objection_alike (word : ∀ name, c.loopVariable = some name → ∀ x ∈ name.toList, isWordChar x)
    {text : String} (alike : Alike code.toList text.toList) : objection? c code = objection? c text := by
  have empty : code.isEmpty = text.isEmpty := by
    have none : code.toList = [] ↔ text.toList = [] := by
      rw [← List.head?_eq_none_iff, ← List.head?_eq_none_iff, alike_head alike]
    rw [Bool.eq_iff_iff, String.isEmpty_iff, String.isEmpty_iff]
    simpa using none
  have lines : lineCount code = lineCount text := congrArg (· + 1) (lines_alike alike).symm
  have defines : hasPart "def ".toList code.toList = hasPart "def ".toList text.toList :=
    hasPart_alike (by decide) (by decide) alike
  have passes : hasPart "pass".toList code.toList = hasPart "pass".toList text.toList :=
    hasPart_alike (by decide) (by decide) alike
  have counts : increment? c code = increment? c text := by
    unfold increment?
    split
    · rename_i name loops
      by_cases named : name = ""
      · simp [named]
      · rw [Increment.occursIn_alike named (word name loops) alike]
    · rfl
  unfold objection? precheck? looksUnimplemented
  rw [empty, lines, defines, passes, counts]

-- A margin makes no difference to what is held against a submission, nor to how it would be read; it
-- makes none to the verdicts either if and only if something is held against it, or the text whose
-- first line has lost the margin comes to the same as the one that never had any.
theorem evaluate_indented_iff (margin : w.all isIndent)
    (word : ∀ name, c.loopVariable = some name → ∀ x ∈ name.toList, isWordChar x) :
    Script.Program.compile (indented w source) l.names = Script.Program.compile source l.names ∧
    objection? c (trim (indented w source)) = objection? c (trim source) ∧
    (evaluate c l (indented w source) tests = evaluate c l source tests ↔
      (objection? c (trim source)).isSome ∨
        outcomes c l tests (hanging w (trim source)) = outcomes c l tests (trim source)) := by
  have blank : Script.Blanks w :=
    fun x inside => Script.isBlank_indent (List.all_eq_true.mp margin x inside)
  have alike : Alike (trim source).toList (hanging w (trim source)).toList := by
    rw [Script.hanging_spread, String.toList_ofList]
    exact alike_spread margin _
  have same := objection_alike word alike
  rw [evaluate_outcomes, evaluate_outcomes, Script.trim_indented blank, ← same]
  refine ⟨Script.compile_indented margin l.names source, rfl, ?_⟩
  cases objection? c (trim source) with
  | some v => simp
  | none => simp

open Bundled (arraySum countDown)

-- One function may have a margin: its other lines only stand deeper than they did.
def countedDown : String :=
  "def count_down(n):\n    while n > 0:\n        print(n)\n        n -= 1\n    return 'Done!'"

theorem countedDown_indented :
    evaluate countDown {} (indented [' ', ' ', '\t'] countedDown) countDown.testCases =
        evaluate countDown {} countedDown countDown.testCases ∧
      Script.Program.compile (indented [' ', ' ', '\t'] countedDown) =
        Script.Program.compile countedDown := by
  have word : ∀ name, countDown.loopVariable = some name → ∀ x ∈ name.toList, isWordChar x := by
    intro name loops
    have known : countDown.loopVariable = some "n" := rfl
    rw [known] at loops
    cases loops
    exact List.forall_mem_singleton.mpr rfl
  have same : outcomes countDown {} countDown.testCases (hanging [' ', ' ', '\t'] (trim countedDown)) =
      outcomes countDown {} countDown.testCases (trim countedDown) := by decide +kernel
  obtain ⟨read, -, verdicts⟩ := evaluate_indented_iff (w := [' ', ' ', '\t']) rfl word
  exact ⟨verdicts.mpr (.inr same), read⟩

-- Of two functions the second one is left at a depth that no line before it has.
def helperFirst : String :=
  "def twice(n):\n    return n * 2\n\ndef array_sum(numbers):\n    return sum(numbers)"

theorem helperFirst_indented :
    (Script.Program.compile helperFirst).isOk = true ∧
      (∀ v ∈ evaluate arraySum {} helperFirst arraySum.testCases, v.passed = true) ∧
      evaluate arraySum {} (indented [' ', ' ', ' ', ' '] helperFirst) arraySum.testCases =
        [.malformed "IndentationError"] := by
  decide +kernel

end Judge
end ScriptArena
