import ScriptArena.Proofs.Judge.Verdicts

namespace ScriptArena

theorem exists_left {α β : Type} {R : α → β → Prop} {xs : List α} {ys : List β} {y : β}
    (all : List.Forall₂ R xs ys) (member : y ∈ ys) : ∃ x ∈ xs, R x y := by
  induction all with
  | nil => cases member
  | cons here _ ih =>
    rcases List.mem_cons.mp member with rfl | later
    · exact ⟨_, List.mem_cons_self, here⟩
    · obtain ⟨x, among, related⟩ := ih later
      exact ⟨x, List.mem_cons_of_mem _ among, related⟩

theorem exists_right {α β : Type} {R : α → β → Prop} {xs : List α} {ys : List β} {x : α}
    (all : List.Forall₂ R xs ys) (member : x ∈ xs) : ∃ y ∈ ys, R x y :=
  exists_left all.flip member

namespace Verdict

-- Three marks of a verdict tell whether it is a pass, and they are never at odds.
structure Passes (v : Verdict) : Prop where
  passed : v.passed = true
  type : v.type = .success
  unblamed : v.shortcoming = none

structure Fails (v : Verdict) : Prop where
  failed : v.passed = false
  type : v.type ≠ .success
  blamed : v.shortcoming ≠ none

def Clear (v : Verdict) : Prop :=
  (v.passed = true ↔ v.type = .success) ∧ (v.passed = true ↔ v.shortcoming = none)

variable {v : Verdict}

theorem Passes.clear (passes : v.Passes) : v.Clear := by
  obtain ⟨passed, type, unblamed⟩ := passes
  simp [Clear, passed, type, unblamed]

theorem Fails.clear (fails : v.Fails) : v.Clear := by
  obtain ⟨failed, type, blamed⟩ := fails
  simp [Clear, failed, type, blamed]

-- The marks of a verdict that says what is wrong.
theorem Fails.of_blame {why : Shortcoming} (failed : v.passed = false)
    (type : (v.type == .success) = false) (blamed : v.shortcoming = some why) : v.Fails := by
  refine ⟨failed, fun same => ?_, fun unblamed => ?_⟩
  · rw [same] at type
    cases type
  · rw [unblamed] at blamed
    cases blamed

theorem Fails.not_passed (fails : v.Fails) : v.passed ≠ true := by
  simp [fails.failed]

theorem passedTest_passes {n : Nat} {t : TestCase} {p : Printed} : (passedTest n t p).Passes :=
  ⟨rfl, rfl, rfl⟩

theorem failedTest_fails {n : Nat} {t : TestCase} {expected got : String} {p : Printed} :
    (failedTest n t expected got p).Fails :=
  .of_blame rfl rfl rfl

theorem malformed_fails {details : String} : (malformed details).Fails := .of_blame rfl rfl rfl

end Verdict

namespace Judge

variable {c : Challenge} {p : Script.Program} {l : Limits} {n : Nat} {t : TestCase}
  {tests : List TestCase} {source : String} {v : Verdict}

theorem precheck_fails {code : String} (found : precheck? code = some v) : v.Fails := by
  unfold precheck? at found
  split at found
  · cases found
    exact .of_blame rfl rfl rfl
  · split at found
    · cases found
      exact .of_blame rfl rfl rfl
    · split at found
      · cases found
        exact .of_blame rfl rfl rfl
      · cases found

theorem increment_fails {code : String} (found : increment? c code = some v) : v.Fails := by
  unfold increment? at found
  split at found
  · split at found
    · cases found
      exact .of_blame rfl rfl rfl
    · cases found
  · cases found

theorem refused_fails (refused : Refused c l source v) : v.Fails := by
  cases refused with
  | precheck found => exact precheck_fails found
  | increment _ found => exact increment_fails found
  | rejection => exact Verdict.malformed_fails

-- The function of the challenge, called on what the vector gives in a session of its own, answers
-- what the vector expects.
inductive Answers (c : Challenge) (p : Script.Program) (l : Limits) (t : TestCase) : Prop where
  | intro (started : Session.start p l = .ok s) (chosen : function? s c = some f)
      (given : Datum.loadAll t.arguments s.machine.heap = (args, heap))
      (called : { s with machine := { s.machine with heap := heap } }.call f args = (.ok a, after))
      (expected : a.agrees after.machine.heap t.expected = true)

-- What a vector comes to is the expected answer.
inductive Right (t : TestCase) : Ending → Prop where
  | answered (expected : a.agrees s.machine.heap t.expected = true) : Right t (.answered a s)

theorem Right.reportable {ending : Ending} (right : Right t ending) : Reportable t ending := by
  cases right with
  | answered expected => exact .inl expected

theorem answers_iff : Answers c p l t ↔ Right t (runVector c p l t) := by
  constructor
  · rintro ⟨started, chosen, given, called, expected⟩
    unfold runVector callFunction
    simp only [started, chosen, given, called]
    exact .answered expected
  · intro right
    unfold runVector at right
    split at right
    · cases right
    · rename_i s started
      split at right
      · cases right
      · rename_i f chosen
        unfold callFunction at right
        cases given : Datum.loadAll t.arguments s.machine.heap with
        | mk args heap =>
        simp only [given] at right
        split at right
        · cases right
        · rename_i v after called
          cases right with
          | answered expected => exact ⟨started, chosen, given, called, expected⟩

theorem stopped_fails {e : Fault} {printed : Printed} (made : stopped c n printed e = .ok v) :
    v.Fails := by
  cases e with
  | limit what =>
    cases named : c.loopVariable with
    | none =>
      simp only [stopped, named] at made
      cases made
      exact .of_blame rfl rfl rfl
    | some var =>
      simp only [stopped, named] at made
      split at made
      · cases made
        exact .of_blame rfl rfl rfl
      · cases made
        exact .of_blame rfl rfl rfl
  | _ =>
    obtain ⟨text, rfl⟩ := map_ok made
    exact .of_blame rfl rfl rfl

-- Nothing can go wrong while a pass is written down.
theorem report_right {ending : Ending} (right : Right t ending) :
    ∃ printed, report c n t ending = .ok (.passedTest n t printed) := by
  cases right with
  | @answered a s expected =>
    refine ⟨printed s, ?_⟩
    simp [report, compareAnswer, expected]

theorem report_wrong {ending : Ending} (wrong : ¬ Right t ending)
    (made : report c n t ending = .ok v) : v.Fails := by
  cases ending with
  | stopped e printed => exact stopped_fails made
  | unfound =>
    cases made
    exact .of_blame rfl rfl rfl
  | answered a s =>
    have unexpected : a.agrees s.machine.heap t.expected = false := by
      rw [← Bool.not_eq_true]
      exact fun expected => wrong (.answered expected)
    simp only [report, compareAnswer, unexpected] at made
    cases shown : t.expected.shown with
    | error e =>
      rw [shown] at made
      cases made
    | ok text =>
      rw [shown] at made
      obtain ⟨got, rfl⟩ := map_ok made
      exact Verdict.failedTest_fails

theorem judgeVector_passed (made : judgeVector c p l n t = .ok v) :
    (v.passed = true ↔ Answers c p l t) ∧ v.Clear := by
  rw [answers_iff]
  by_cases right : Right t (runVector c p l t)
  · obtain ⟨printed, reported⟩ := report_right (c := c) (n := n) right
    rw [judgeVector, reported] at made
    cases made
    exact ⟨iff_of_true rfl right, Verdict.passedTest_passes.clear⟩
  · have fails := report_wrong right made
    exact ⟨iff_of_false fails.not_passed right, fails.clear⟩

-- The vector is reported as passed, under its number.
def ReportedPassed (numbered : TestCase × Nat) (v : Verdict) : Prop :=
  ∃ printed, v = .passedTest (numbered.2 + 1) numbered.1 printed

-- A failure while the verdicts are written down leaves a single one.
theorem run_cases (c : Challenge) (p : Script.Program) (l : Limits) (tests : List TestCase) :
    (∃ details, run c p l tests = [.malformed details]) ∨
      EachJudged c p l tests (run c p l tests) := by
  unfold run
  cases judged : judgeVectors c p l tests with
  | error e => exact .inl ⟨_, rfl⟩
  | ok verdicts => exact .inr (judgeVectors_each.mp judged)

theorem run_answers (all : ∀ t ∈ tests, Answers c p l t) :
    List.Forall₂ ReportedPassed tests.zipIdx (run c p l tests) := by
  have each : EachJudged c p l tests (run c p l tests) :=
    (run_exact c p l tests).1.mp fun t member => (answers_iff.mp (all t member)).reportable
  have right : ∀ numbered ∈ tests.zipIdx, Right numbered.1 (runVector c p l numbered.1) :=
    fun _ member => answers_iff.mp (all _ (List.fst_mem_of_mem_zipIdx member))
  refine ((List.forall₂_and_left _ _).mpr ⟨right, each⟩).imp ?_
  rintro numbered v ⟨right, judged⟩
  obtain ⟨printed, reported⟩ := report_right (c := c) (n := numbered.2 + 1) right
  refine ⟨printed, ?_⟩
  have same := judged.1
  rw [judgeVector, reported] at same
  cases same
  rfl

theorem run_clear (member : v ∈ run c p l tests) : v.Clear := by
  rcases run_cases c p l tests with ⟨details, single⟩ | each
  · rw [single, List.mem_singleton] at member
    subst member
    exact Verdict.malformed_fails.clear
  · obtain ⟨numbered, _, made, _⟩ := exists_left each member
    exact (judgeVector_passed made).2

theorem run_passed_iff :
    (∀ v ∈ run c p l tests, v.passed = true) ↔ ∀ t ∈ tests, Answers c p l t := by
  constructor
  · intro passed t member
    rcases run_cases c p l tests with ⟨details, single⟩ | each
    · rw [single, List.forall_mem_singleton] at passed
      exact absurd passed Verdict.malformed_fails.not_passed
    · obtain ⟨i, given⟩ := List.getElem?_of_mem member
      have numbered : (t, i) ∈ tests.zipIdx := List.mk_mem_zipIdx_iff_getElem?.mpr given
      obtain ⟨v, among, made, _⟩ := exists_right each numbered
      exact (judgeVector_passed made).1.mp (passed v among)
  · intro all v member
    obtain ⟨numbered, _, printed, rfl⟩ := exists_left (run_answers all) member
    rfl

theorem run_eq_nil : run c p l tests = [] ↔ tests = [] := by
  constructor
  · intro none
    rcases run_cases c p l tests with ⟨details, single⟩ | each
    · rw [none] at single
      cases single
    · simpa [EachJudged, none] using each
  · rintro rfl
    rfl

theorem evaluate_cases (c : Challenge) (l : Limits) (source : String) (tests : List TestCase) :
    (∃ v, Refused c l source v ∧ evaluate c l source tests = [v]) ∨
      ∃ p, Accepted c l source p ∧ evaluate c l source tests = run c p l tests := by
  unfold evaluate
  dsimp only
  split
  · rename_i v found
    exact .inl ⟨v, .precheck found, rfl⟩
  · rename_i passed
    split
    · rename_i v found
      exact .inl ⟨v, .increment passed found, rfl⟩
    · rename_i steady
      split
      · rename_i r refused
        exact .inl ⟨_, .rejection passed steady refused, rfl⟩
      · rename_i p read
        exact .inr ⟨p, ⟨passed, steady, read⟩, rfl⟩

theorem refused_not_accepted (refused : Refused c l source v) : ¬ Accepted c l source p := by
  rintro ⟨passed, steady, read⟩
  cases refused with
  | precheck found => simp [passed] at found
  | increment _ found => simp [steady] at found
  | rejection _ _ refused => simp [read] at refused

theorem evaluate_clear (member : v ∈ evaluate c l source tests) : v.Clear := by
  rcases evaluate_cases c l source tests with ⟨only, refused, single⟩ | ⟨p, _, ran⟩
  · rw [single, List.mem_singleton] at member
    subst member
    exact (refused_fails refused).clear
  · rw [ran] at member
    exact run_clear member

theorem evaluate_passed_iff :
    (evaluate c l source tests ≠ [] ∧ ∀ v ∈ evaluate c l source tests, v.passed = true) ↔
      tests ≠ [] ∧ ∃ p, Accepted c l source p ∧ ∀ t ∈ tests, Answers c p l t := by
  rcases evaluate_cases c l source tests with ⟨only, refused, single⟩ | ⟨p, accepted, ran⟩
  · refine iff_of_false ?_ ?_
    · rw [single, List.forall_mem_singleton]
      exact fun passed => (refused_fails refused).not_passed passed.2
    · rintro ⟨_, p, accepted, _⟩
      exact refused_not_accepted refused accepted
  · rw [ran, run_passed_iff, Ne, run_eq_nil]
    constructor
    · rintro ⟨nonempty, all⟩
      exact ⟨nonempty, p, accepted, all⟩
    · rintro ⟨nonempty, p', accepted', all⟩
      have same := accepted'.read
      rw [accepted.read] at same
      cases same
      exact ⟨nonempty, all⟩

-- A submission passes only if it is let through, read, and right on every one of its vectors, of
-- which there is at least one. The marks of each verdict agree on whether it is a pass, and so does
-- the outcome of them all.
theorem passes_verified (c : Challenge) (l : Limits) (source : String) (tests : List TestCase) :
    ((evaluate c l source tests ≠ [] ∧ ∀ v ∈ evaluate c l source tests, v.passed = true) ↔
      tests ≠ [] ∧ ∃ p, Accepted c l source p ∧ ∀ t ∈ tests, Answers c p l t) ∧
    (∀ v ∈ evaluate c l source tests,
      (v.passed = true ↔ v.type = .success) ∧ (v.passed = true ↔ v.shortcoming = none)) ∧
    (Outcome.ofVerdicts (evaluate c l source tests) = .passed ↔
      evaluate c l source tests ≠ [] ∧ ∀ v ∈ evaluate c l source tests, v.passed = true) :=
  ⟨evaluate_passed_iff, fun _ member => evaluate_clear member, Outcome.ofVerdicts_eq_passed_iff _⟩

end Judge
end ScriptArena
