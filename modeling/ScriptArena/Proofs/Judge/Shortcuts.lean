import ScriptArena.Proofs.Judge.Passes

namespace ScriptArena

namespace Text

variable {α : Type} [BEq α] [LawfulBEq α] {part : List α}

theorem findPart_isSome {whole : List α} {pos : Nat} :
    (findPart part whole pos).isSome = true ↔ part <:+: whole := by
  induction whole generalizing pos with
  | nil => cases part <;> simp [findPart]
  | cons c rest ih =>
    unfold findPart
    rw [List.infix_cons_iff, ← List.isPrefixOf_iff_prefix]
    split
    · rename_i here
      simp [here]
    · rename_i elsewhere
      simp [elsewhere, ih]

theorem hasPart_iff {whole : List α} : hasPart part whole = true ↔ part <:+: whole :=
  findPart_isSome

end Text

namespace Increment

-- The place in a text between what is before it and what is behind it.
def between (before after : List Char) : Place := ⟨before.getLast?, after⟩

-- A word begins or ends between two parts of a text.
def AtEdge (before after : List Char) : Prop :=
  before.getLast?.any Text.isWordChar ≠ after.head?.any Text.isWordChar

def Blank (cs : List Char) : Prop := ∀ c ∈ cs, Text.isBlank c = true

-- The two ways to count a variable up, with blanks between their parts.
inductive Step (var : List Char) : List Char → Prop where
  | short (b₁ : Blank s₁) (b₂ : Blank s₂) : Step var (var ++ s₁ ++ ['+', '='] ++ s₂ ++ ['1'])
  | long (b₁ : Blank s₁) (b₂ : Blank s₂) (b₃ : Blank s₃) (b₄ : Blank s₄) :
      Step var (var ++ s₁ ++ ['='] ++ s₂ ++ var ++ s₃ ++ ['+'] ++ s₄ ++ ['1'])

-- A step begins here, and neither the variable nor the one is part of a longer word.
def StepFrom (var before text : List Char) : Prop :=
  ∃ step after, text = step ++ after ∧ Step var step ∧ AtEdge before text ∧
    AtEdge (before ++ step) after

-- A text counts a variable up somewhere.
def Counts (var text : List Char) : Prop :=
  ∃ before after, text = before ++ after ∧ StepFrom var before after

variable {before after : List Char} {q : Place}

theorem isWordEdge_between : isWordEdge (between before after) = true ↔ AtEdge before after := by
  unfold isWordEdge between AtEdge
  exact bne_iff_ne

theorem mem_edge : q ∈ edge (between before after) ↔
    AtEdge before after ∧ q = between before after := by
  unfold edge
  rw [← isWordEdge_between]
  split
  · rename_i here
    simp [here]
  · rename_i none
    simp [none]

theorem advance_between {text : List Char} :
    advance (between before (text ++ after)) text.length = between (before ++ text) after := by
  induction text generalizing before with
  | nil => simp [advance]
  | cons c rest ih =>
    have moved : (⟨some c, rest ++ after⟩ : Place) = between (before ++ [c]) (rest ++ after) := by
      simp [between]
    simp only [List.cons_append, List.length_cons, advance, between]
    rw [moved, ih, List.append_assoc]
    rfl

theorem mem_literal {text rest : List Char} : q ∈ literal text (between before rest) ↔
    ∃ after, rest = text ++ after ∧ q = between (before ++ text) after := by
  unfold literal
  split
  · rename_i here
    obtain ⟨after, rfl⟩ := List.isPrefixOf_iff_prefix.mp here
    rw [advance_between, List.mem_singleton]
    simp
  · rename_i elsewhere
    refine iff_of_false List.not_mem_nil ?_
    rintro ⟨after, rfl, _⟩
    exact elsewhere (List.isPrefixOf_iff_prefix.mpr (List.prefix_append text after))

theorem mem_blanksFrom {rest : List Char} : q ∈ blanksFrom before.getLast? rest ↔
    ∃ skipped after, Blank skipped ∧ rest = skipped ++ after ∧
      q = between (before ++ skipped) after := by
  have stay : ∀ rest, between (before ++ []) rest = ⟨before.getLast?, rest⟩ := by simp [between]
  induction rest generalizing before with
  | nil =>
    rw [blanksFrom, List.mem_singleton, ← stay]
    constructor
    · rintro rfl
      exact ⟨[], [], nofun, rfl, rfl⟩
    · rintro ⟨skipped, after, _, none, rfl⟩
      obtain ⟨rfl, rfl⟩ := List.append_eq_nil_iff.mp none.symm
      rfl
  | cons c rest ih =>
    have moved : some c = (before ++ [c]).getLast? := by simp
    rw [blanksFrom, List.mem_cons, moved, ← stay]
    constructor
    · rintro (rfl | later)
      · exact ⟨[], c :: rest, nofun, rfl, rfl⟩
      · split at later
        · rename_i blank
          obtain ⟨skipped, after, blanks, rfl, rfl⟩ := (ih (by simp [between])).mp later
          exact ⟨c :: skipped, after, List.forall_mem_cons.mpr ⟨blank, blanks⟩, rfl, by simp⟩
        · cases later
    · rintro ⟨skipped, after, blanks, same, rfl⟩
      cases skipped with
      | nil =>
        rw [List.nil_append] at same
        exact .inl (by rw [same])
      | cons d more =>
        obtain ⟨rfl, rfl⟩ := List.cons_eq_cons.mp same
        obtain ⟨blank, blanks⟩ := List.forall_mem_cons.mp blanks
        rw [if_pos blank]
        exact .inr ((ih (by simp [between])).mpr ⟨more, after, blanks, rfl, by simp⟩)

theorem mem_blanks {rest : List Char} : q ∈ blanks (between before rest) ↔
    ∃ skipped after, Blank skipped ∧ rest = skipped ++ after ∧
      q = between (before ++ skipped) after :=
  mem_blanksFrom

theorem flatMap_chain {rs : List Pattern} {places : List Place} :
    rs.foldl (fun places r => places.flatMap r) places = places.flatMap (chain rs) := by
  induction rs generalizing places with
  | nil => exact (List.flatMap_singleton' places).symm
  | cons r rest ih =>
    have step : chain (r :: rest) = fun p => (r p).flatMap (chain rest) := by
      funext p
      simp [chain, ih]
    rw [step, List.foldl_cons, ih, List.flatMap_assoc]

theorem mem_chain_cons {r : Pattern} {rest : List Pattern} {p : Place} :
    q ∈ chain (r :: rest) p ↔ ∃ m ∈ r p, q ∈ chain rest m := by
  change q ∈ (r :: rest).foldl (fun places r => places.flatMap r) [p] ↔ _
  rw [List.foldl_cons, flatMap_chain]
  simp

-- The patterns can be found one after the other, from a place in a text on.
def Leads (rs : List Pattern) (before text : List Char) : Prop :=
  ∃ q, q ∈ chain rs (between before text)

variable {rs : List Pattern} {text : List Char}

theorem leads_nil : Leads [] before text ↔ True :=
  iff_true_intro ⟨_, List.mem_singleton_self _⟩

theorem leads_edge : Leads (edge :: rs) before text ↔ AtEdge before text ∧ Leads rs before text := by
  simp only [Leads, mem_chain_cons, mem_edge]
  constructor
  · rintro ⟨q, _, ⟨atEdge, rfl⟩, found⟩
    exact ⟨atEdge, q, found⟩
  · rintro ⟨atEdge, q, found⟩
    exact ⟨q, _, ⟨atEdge, rfl⟩, found⟩

theorem leads_literal {part : List Char} : Leads (literal part :: rs) before text ↔
    ∃ after, text = part ++ after ∧ Leads rs (before ++ part) after := by
  simp only [Leads, mem_chain_cons, mem_literal]
  constructor
  · rintro ⟨q, _, ⟨after, same, rfl⟩, found⟩
    exact ⟨after, same, q, found⟩
  · rintro ⟨after, same, q, found⟩
    exact ⟨q, _, ⟨after, same, rfl⟩, found⟩

theorem leads_blanks : Leads (blanks :: rs) before text ↔
    ∃ skipped after, Blank skipped ∧ text = skipped ++ after ∧
      Leads rs (before ++ skipped) after := by
  simp only [Leads, mem_chain_cons, mem_blanks]
  constructor
  · rintro ⟨q, _, ⟨skipped, after, blank, same, rfl⟩, found⟩
    exact ⟨skipped, after, blank, same, q, found⟩
  · rintro ⟨skipped, after, blank, same, q, found⟩
    exact ⟨q, _, ⟨skipped, after, blank, same, rfl⟩, found⟩

theorem matchesAt_iff {var : List Char} :
    matchesAt var (between before text) = true ↔ StepFrom var before text := by
  have found : matchesAt var (between before text) = true ↔
      (∃ q, q ∈ short var (between before text)) ∨ ∃ q, q ∈ long var (between before text) := by
    simp only [matchesAt, Bool.or_eq_true, Bool.not_eq_true', List.isEmpty_eq_false_iff_exists_mem]
  change _ ↔ Leads _ _ _ ∨ Leads _ _ _ at found
  rw [found]
  simp only [one, List.cons_append, List.nil_append, leads_edge, leads_literal, leads_blanks,
    leads_nil, and_true]
  constructor
  · rintro (⟨first, _, rfl, s₁, _, b₁, rfl, _, rfl, s₂, _, b₂, rfl, after, rfl, last⟩ |
      ⟨first, _, rfl, s₁, _, b₁, rfl, _, rfl, s₂, _, b₂, rfl, _, rfl, s₃, _, b₃, rfl, _, rfl, s₄, _,
        b₄, rfl, after, rfl, last⟩)
    · refine ⟨_, after, ?_, .short b₁ b₂, ?_, ?_⟩
      · simp
      · simpa using first
      · simpa using last
    · refine ⟨_, after, ?_, .long b₁ b₂ b₃ b₄, ?_, ?_⟩
      · simp
      · simpa using first
      · simpa using last
  · rintro ⟨_, after, rfl, step, first, last⟩
    cases step with
    | short b₁ b₂ =>
      left
      refine ⟨first, _, ?_, _, _, b₁, rfl, _, rfl, _, _, b₂, rfl, after, rfl, ?_⟩
      · simp
      · simpa using last
    | long b₁ b₂ b₃ b₄ =>
      right
      refine ⟨first, _, ?_, _, _, b₁, rfl, _, rfl, _, _, b₂, rfl, _, rfl, _, _, b₃, rfl, _, rfl,
        _, _, b₄, rfl, after, rfl, ?_⟩
      · simp
      · simpa using last

theorem occursFrom_iff {var : List Char} : occursFrom var before.getLast? text = true ↔
    ∃ skipped rest, text = skipped ++ rest ∧ StepFrom var (before ++ skipped) rest := by
  induction text generalizing before with
  | nil =>
    refine Iff.trans matchesAt_iff ⟨fun here => ⟨[], [], rfl, by simpa using here⟩, ?_⟩
    rintro ⟨skipped, rest, none, step⟩
    obtain ⟨rfl, rfl⟩ := List.append_eq_nil_iff.mp none.symm
    simpa using step
  | cons c rest ih =>
    have moved : some c = (before ++ [c]).getLast? := by simp
    have here : matchesAt var (between before (c :: rest)) = true ↔ _ := matchesAt_iff
    rw [occursFrom, Bool.or_eq_true, moved, ih]
    constructor
    · rintro (found | ⟨skipped, rest', rfl, later⟩)
      · exact ⟨[], c :: rest, rfl, by simpa using here.mp found⟩
      · exact ⟨c :: skipped, rest', rfl, by simpa using later⟩
    · rintro ⟨skipped, rest', same, step⟩
      cases skipped with
      | nil =>
        rw [List.nil_append] at same
        subst same
        exact .inl (here.mpr (by simpa using step))
      | cons d more =>
        obtain ⟨rfl, rfl⟩ := List.cons_eq_cons.mp same
        exact .inr ⟨more, rest', rfl, by simpa using step⟩

theorem occursIn_iff {var text : String} :
    occursIn var text = true ↔ Counts var.toList text.toList := by
  have found : occursFrom var.toList [].getLast? text.toList = true ↔ _ := occursFrom_iff
  exact found

end Increment

namespace Script

theorem lex_empty : lex "" = [⟨.finish, 2⟩] := rfl

-- An empty text is read, whichever characters are known by name.
theorem compile_empty (names : CharNames) : Program.compile "" names = .ok ⟨[], rfl⟩ := by
  have read : Module.ofText? names (dedent "") = .ok [] := by
    have bare : dedent "" = "" := by decide +kernel
    unfold Module.ofText?
    rw [bare, lex_empty]
    rfl
  unfold Program.compile
  rw [read]
  rfl

end Script

namespace Judge

variable {c : Challenge} {p : Script.Program} {l : Limits} {t : TestCase} {tests : List TestCase}
  {source code : String} {v : Verdict}

-- What a text is turned away for, whatever its runs would give.
inductive Objection (c : Challenge) (code : String) : Verdict → Prop where
  | noDefinition (absent : ¬ "def ".toList <:+: code.toList) : Objection c code .noDefinition
  | placeholder (present : "pass".toList <:+: code.toList) (brief : lineCount code ≤ 5) :
      Objection c code .notImplemented
  | countsUp (loops : c.loopVariable = some var) (named : var ≠ "")
      (counts : Increment.Counts var.toList code.toList) : Objection c code (.countsUp var)

theorem precheck_objection (written : code ≠ "") (found : precheck? code = some v) :
    Objection c code v := by
  unfold precheck? at found
  rw [if_neg (by simpa using written)] at found
  split at found
  · rename_i absent
    cases found
    refine .noDefinition fun present => ?_
    rw [Text.hasPart_iff.mpr present] at absent
    cases absent
  · split at found
    · rename_i unwritten
      cases found
      obtain ⟨present, brief⟩ := Bool.and_eq_true_iff.mp unwritten
      exact .placeholder (Text.hasPart_iff.mp present) (of_decide_eq_true brief)
    · cases found

theorem increment_objection (found : increment? c code = some v) : Objection c code v := by
  unfold increment? at found
  split at found
  · rename_i var loops
    split at found
    · rename_i counts
      cases found
      obtain ⟨named, counts⟩ := Bool.and_eq_true_iff.mp counts
      exact .countsUp loops (by simpa using named) (Increment.occursIn_iff.mp counts)
    · cases found
  · cases found

-- An empty submission has no function that could answer.
theorem empty_answers_nothing (read : Script.Program.compile "" l.names = .ok p) : ¬ Answers c p l t := by
  rintro ⟨started, chosen, _, _, _⟩
  rw [Script.compile_empty] at read
  cases read
  have ran : Session.start ⟨[], rfl⟩ l = .ok ⟨l, {}⟩ := rfl
  rw [ran] at started
  cases started
  have unfound : function? ⟨l, {}⟩ c = none := rfl
  rw [unfound] at chosen
  cases chosen

-- A submission whose runs are all right is reported as passed on every vector, unless it is turned
-- away with a single verdict, for which its text gives a reason.
theorem right_runs_pass (nonempty : tests ≠ [])
    (read : Script.Program.compile (Text.trim source) l.names = .ok p)
    (right : ∀ v ∈ run c p l tests, v.passed = true) :
    (∃ v, Objection c (Text.trim source) v ∧ evaluate c l source tests = [v]) ∨
      List.Forall₂ ReportedPassed tests.zipIdx (evaluate c l source tests) := by
  have answers := run_passed_iff.mp right
  rcases evaluate_cases c l source tests with ⟨v, refused, single⟩ | ⟨p', accepted, ran⟩
  · refine .inl ⟨v, ?_, single⟩
    cases refused with
    | precheck found =>
      refine precheck_objection ?_ found
      intro empty
      rw [empty] at read
      obtain ⟨t, member⟩ := List.exists_mem_of_ne_nil tests nonempty
      exact empty_answers_nothing read (answers t member)
    | increment _ found => exact increment_objection found
    | rejection _ _ refused =>
      rw [read] at refused
      cases refused
  · have same := accepted.read
    rw [read] at same
    cases same
    rw [ran]
    exact .inr (run_answers answers)

-- Whether the runs of a submission are all right can be computed.
theorem runs_right (all : (Script.Program.compile (Text.trim source) l.names).toOption.any
    (fun p => (run c p l tests).all (·.passed)) = true) :
    ∃ p, Script.Program.compile (Text.trim source) l.names = .ok p ∧
      ∀ v ∈ run c p l tests, v.passed = true := by
  cases read : Script.Program.compile (Text.trim source) l.names with
  | error r =>
    rw [read] at all
    cases all
  | ok p =>
    rw [read] at all
    exact ⟨p, rfl, List.all_eq_true.mp all⟩

open Bundled (arraySum countDown)

def directSum : String := "def array_sum(numbers):\n  return sum(numbers)"

theorem directSum_passes : ∃ p, Script.Program.compile (Text.trim directSum) = .ok p ∧
    (∀ v ∈ run arraySum p {} arraySum.testCases, v.passed = true) ∧
    ((∃ v, Objection arraySum (Text.trim directSum) v ∧
        evaluate arraySum {} directSum arraySum.testCases = [v]) ∨
      List.Forall₂ ReportedPassed arraySum.testCases.zipIdx
        (evaluate arraySum {} directSum arraySum.testCases)) := by
  obtain ⟨p, read, right⟩ : ∃ p, Script.Program.compile (Text.trim directSum) = .ok p ∧
      ∀ v ∈ run arraySum p {} arraySum.testCases, v.passed = true :=
    runs_right (l := {}) (by decide +kernel)
  exact ⟨p, read, right, right_runs_pass (l := {}) nofun read right⟩

-- One submission steps up once and down twice, the other does nothing for each number.
def stepsBack : String :=
  "def count_down(n):\n  while n > 0:\n    print(n)\n    n += 1\n    n -= 2\n  return 'Done!'"

def idleLoop : String :=
  "def array_sum(numbers):\n  for n in numbers:\n    pass\n  return sum(numbers)"

theorem texts_turned_away :
    (∃ p, Script.Program.compile (Text.trim stepsBack) = .ok p ∧
      (∀ v ∈ run countDown p {} countDown.testCases, v.passed = true) ∧
      evaluate countDown {} stepsBack countDown.testCases = [.countsUp "n"]) ∧
    (∃ p, Script.Program.compile (Text.trim idleLoop) = .ok p ∧
      (∀ v ∈ run arraySum p {} arraySum.testCases, v.passed = true) ∧
      evaluate arraySum {} idleLoop arraySum.testCases = [.notImplemented]) := by
  constructor
  · obtain ⟨p, read, right⟩ : ∃ p, Script.Program.compile (Text.trim stepsBack) = .ok p ∧
        ∀ v ∈ run countDown p {} countDown.testCases, v.passed = true :=
      runs_right (l := {}) (by decide +kernel)
    exact ⟨p, read, right, by decide +kernel⟩
  · obtain ⟨p, read, right⟩ : ∃ p, Script.Program.compile (Text.trim idleLoop) = .ok p ∧
        ∀ v ∈ run arraySum p {} arraySum.testCases, v.passed = true :=
      runs_right (l := {}) (by decide +kernel)
    exact ⟨p, read, right, by decide +kernel⟩

end Judge
end ScriptArena
