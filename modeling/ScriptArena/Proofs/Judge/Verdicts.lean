import Mathlib.Algebra.Group.Nat.Defs
import Mathlib.Data.List.Forall2
import ScriptArena.Judge.Evaluate

namespace ScriptArena

-- The computation gives a result.
def Works {α : Type} (x : Except Trouble α) : Prop := ∃ a, x = .ok a

theorem works_bind {α β : Type} {x : Except Trouble α} {f : α → Except Trouble β} :
    Works (x >>= f) ↔ ∃ a, x = .ok a ∧ Works (f a) := by
  cases x with
  | error e => simp [Works, bind, Except.bind]
  | ok a => simp [Works, bind, Except.bind]

theorem works_map {α β : Type} {x : Except Trouble α} {f : α → β} :
    Works (x >>= fun a => pure (f a)) ↔ Works x := by
  rw [works_bind]
  constructor
  · rintro ⟨a, found, _⟩
    exact ⟨a, found⟩
  · rintro ⟨a, found⟩
    exact ⟨a, found, f a, rfl⟩

theorem mapM_iff {α β : Type} {f : α → Except Trouble β} {xs : List α} {ys : List β} :
    xs.mapM f = .ok ys ↔ List.Forall₂ (fun x y => f x = .ok y) xs ys := by
  induction xs generalizing ys with
  | nil =>
    rw [List.mapM_nil, List.forall₂_nil_left_iff]
    constructor
    · intro same
      cases same
      rfl
    · rintro rfl
      rfl
  | cons x rest ih =>
    rw [List.mapM_cons, List.forall₂_cons_left_iff]
    cases here : f x with
    | error e =>
      constructor
      · intro same
        cases same
      · rintro ⟨y, ys, same, _, _⟩
        cases same
    | ok y =>
      cases after : rest.mapM f with
      | error e =>
        constructor
        · intro same
          cases same
        · rintro ⟨y', ys', _, others, _⟩
          rw [← ih, after] at others
          cases others
      | ok zs =>
        constructor
        · intro same
          cases same
          exact ⟨y, zs, rfl, ih.mp after, rfl⟩
        · rintro ⟨y', ys', same, others, rfl⟩
          rw [← ih, after] at others
          cases same
          cases others
          rfl

theorem works_mapM {α β : Type} {f : α → Except Trouble β} {xs : List α} :
    Works (xs.mapM f) ↔ ∀ x ∈ xs, Works (f x) := by
  induction xs with
  | nil => simp [Works, pure, Except.pure]
  | cons x rest ih =>
    rw [List.mapM_cons, List.forall_mem_cons, works_bind]
    constructor
    · rintro ⟨y, here, others⟩
      exact ⟨⟨y, here⟩, ih.mp (works_map.mp others)⟩
    · rintro ⟨⟨y, here⟩, others⟩
      exact ⟨y, here, works_map.mpr (ih.mpr others)⟩

theorem bitLength_lt {n bits most a b k : Nat} (few : Number.bitLength n ≤ bits)
    (larger : 2 ^ a ≤ 10 ^ b) (sized : bits = a * k ∧ most = b * k) : n < 10 ^ most := by
  obtain ⟨rfl, rfl⟩ := sized
  calc n < 2 ^ Number.bitLength n := Number.bitLength_bound n
    _ ≤ 2 ^ (a * k) := Nat.pow_le_pow_right (by decide) few
    _ = (2 ^ a) ^ k := Nat.pow_mul 2 a k
    _ ≤ (10 ^ b) ^ k := Nat.pow_le_pow_left larger k
    _ = 10 ^ (b * k) := (Nat.pow_mul 10 b k).symm

-- An integer has a decimal text if it has no more digits than are allowed.
theorem works_decimalText {n : Int} :
    Works (decimalText n) ↔ n.natAbs < 10 ^ Number.maxDecimalDigits := by
  have same : ∀ digits, Nat.pow 10 digits = 10 ^ digits := fun _ => rfl
  unfold decimalText
  rw [same]
  constructor
  · rintro ⟨text, found⟩
    split at found
    · rename_i few
      have larger : 2 ^ 140 ≤ 10 ^ 43 := by decide
      exact few.elim (bitLength_lt (k := 100) · larger ⟨rfl, rfl⟩) id
    · cases found
  · intro few
    rw [if_pos (.inr few)]
    exact ⟨_, rfl⟩

namespace Brief

-- The integers that the brief text of a value shows, so many levels deep.
inductive Shows (h : Heap) : Nat → Value → Int → Prop where
  | int : Shows h level (.int n) n
  | list (member : v ∈ (h.listAt i).toList.take maxItems) (inner : Shows h level v n) :
      Shows h (level + 1) (.list i) n
  | tuple (member : v ∈ items.take maxItems) (inner : Shows h level v n) :
      Shows h (level + 1) (.tuple mark items) n
  | set (member : v ∈ (inOrder h items).take maxSetItems) (inner : Shows h level v n) :
      Shows h (level + 1) (.set mark items) n
  | key (member : k ∈ (inOrder h ((h.dictAt i).shown .keys)).take maxItems)
      (inner : Shows h level k n) : Shows h (level + 1) (.dict i) n
  | entry (member : k ∈ (inOrder h ((h.dictAt i).shown .keys)).take maxItems)
      (inner : Shows h level ((k.key?.toOption.bind (h.dictAt i).find?).getD .none) n) :
      Shows h (level + 1) (.dict i) n

def Writable (h : Heap) (level : Nat) (v : Value) : Prop :=
  ∀ n, Shows h level v n → n.natAbs < 10 ^ Number.maxDecimalDigits

variable {h : Heap} {level : Nat} {inner : Value → Except Trouble String}

theorem works_int {shown : Option (Value → Except Trouble String)} {n : Int} :
    Works (showWith h shown (.int n)) ↔ Writable h level (.int n) := by
  refine Iff.trans works_map (works_decimalText.trans ⟨?_, fun writable => writable n .int⟩)
  intro short m shows
  cases shows
  exact short

theorem works_bracketed {left right : String} {most : Nat} {items : List Value} :
    Works (bracketed left right most items (some inner)) ↔
      ∀ v ∈ items.take most, Works (inner v) := by
  unfold bracketed
  dsimp only
  rw [works_map, works_mapM]

theorem works_pair {x y : Except Trouble String} :
    Works (do return (← x) ++ ": " ++ (← y)) ↔ Works x ∧ Works y := by
  rw [works_bind]
  constructor
  · rintro ⟨a, found, rest⟩
    exact ⟨⟨a, found⟩, works_map.mp rest⟩
  · rintro ⟨⟨a, found⟩, rest⟩
    exact ⟨a, found, works_map.mpr rest⟩

theorem works_entries {d : Dict} :
    Works (entries h d (some inner)) ↔ ∀ k ∈ (inOrder h (d.shown .keys)).take maxItems,
      Works (inner k) ∧ Works (inner ((k.key?.toOption.bind d.find?).getD .none)) := by
  unfold entries
  dsimp only
  rw [works_map, works_mapM]
  simp only [works_pair]

theorem works_showAt (v : Value) : Works (showAt h level v) ↔ Writable h level v := by
  induction level generalizing v with
  | zero =>
    cases v with
    | int n => exact works_int
    | set mark items =>
      refine ⟨fun _ _ => nofun, fun _ => ?_⟩
      cases items with
      | nil => exact ⟨_, rfl⟩
      | cons v rest => exact ⟨_, rfl⟩
    | _ => exact ⟨fun _ _ => nofun, fun _ => ⟨_, rfl⟩⟩
  | succ level ih =>
    have parts : ∀ {items : List Value} {whole : Value},
        (∀ n, Shows h (level + 1) whole n ↔ ∃ v ∈ items, Shows h level v n) →
        ((∀ v ∈ items, Works (showAt h level v)) ↔ Writable h (level + 1) whole) := by
      intro items whole shows
      simp only [ih, Writable, shows, forall_exists_index, and_imp]
      exact ⟨fun all n v member => all v member n, fun all v member n => all n v member⟩
    cases v with
    | int n => exact works_int
    | list i =>
      refine Iff.trans works_bracketed (parts fun n => ⟨?_, ?_⟩)
      · intro shows
        cases shows with
        | list member inner => exact ⟨_, member, inner⟩
      · rintro ⟨v, member, inner⟩
        exact .list member inner
    | tuple mark items =>
      refine Iff.trans works_bracketed (parts fun n => ⟨?_, ?_⟩)
      · intro shows
        cases shows with
        | tuple member inner => exact ⟨_, member, inner⟩
      · rintro ⟨v, member, inner⟩
        exact .tuple member inner
    | set mark items =>
      have shows : ∀ n, Shows h (level + 1) (.set mark items) n ↔
          ∃ v ∈ (inOrder h items).take maxSetItems, Shows h level v n := by
        intro n
        constructor
        · intro shows
          cases shows with
          | set member inner => exact ⟨_, member, inner⟩
        · rintro ⟨v, member, inner⟩
          exact .set member inner
      cases items with
      | nil => exact Iff.trans ⟨fun _ => nofun, fun _ => ⟨_, rfl⟩⟩ (parts shows)
      | cons v rest => exact Iff.trans works_bracketed (parts shows)
    | dict i =>
      refine Iff.trans works_entries ?_
      simp only [ih, Writable]
      constructor
      · intro all n shows
        cases shows with
        | key member inner => exact (all _ member).1 n inner
        | entry member inner => exact (all _ member).2 n inner
      · intro all k member
        exact ⟨fun n inner => all n (.key member inner), fun n inner => all n (.entry member inner)⟩
    | _ => exact ⟨fun _ _ => nofun, fun _ => ⟨_, rfl⟩⟩

end Brief

namespace Judge

-- What a vector comes to can be written down.
def Reportable (t : TestCase) : Ending → Prop
  | .stopped e _ => e ≠ .failure (.missingKey none)
  | .unfound => True
  | .answered v s =>
    v.agrees s.machine.heap t.expected = true ∨
      Works t.expected.shown ∧ Brief.Writable s.machine.heap Brief.maxLevel v

theorem works_faultText {e : Fault} : Works (faultText e) ↔ e ≠ .failure (.missingKey none) := by
  unfold faultText
  split
  · simp [Works]
  · simp [Works]
  · rename_i other _
    exact ⟨fun _ => other, fun _ => ⟨_, rfl⟩⟩

variable {c : Challenge} {n : Nat} {t : TestCase}

theorem works_stopped {e : Fault} {p : Printed} :
    Works (stopped c n p e) ↔ e ≠ .failure (.missingKey none) := by
  cases e with
  | limit what =>
    refine ⟨fun _ => nofun, fun _ => ?_⟩
    cases named : c.loopVariable with
    | none => simp [stopped, named, Works]
    | some var => cases unnamed : var.isEmpty <;> simp [stopped, named, unnamed, Works]
  | _ => exact Iff.trans works_map works_faultText

theorem works_compareAnswer {v : Value} {s : Session} :
    Works (compareAnswer n t s v) ↔ Reportable t (.answered v s) := by
  unfold compareAnswer Reportable
  by_cases agrees : v.agrees s.machine.heap t.expected = true
  · simp only [agrees, if_true, true_or, iff_true]
    exact ⟨_, rfl⟩
  · rw [Bool.not_eq_true] at agrees
    simp only [agrees, Bool.false_eq_true, if_false, false_or]
    rw [works_bind]
    constructor
    · rintro ⟨expected, found, rest⟩
      exact ⟨⟨expected, found⟩, Brief.works_showAt v |>.mp (works_map.mp rest)⟩
    · rintro ⟨⟨expected, found⟩, writable⟩
      exact ⟨expected, found, works_map.mpr ((Brief.works_showAt v).mpr writable)⟩

theorem works_report {ending : Ending} : Works (report c n t ending) ↔ Reportable t ending := by
  cases ending with
  | stopped e p => exact works_stopped
  | unfound => exact ⟨fun _ => trivial, fun _ => ⟨_, rfl⟩⟩
  | answered v s => exact works_compareAnswer

-- A verdict on a vector carries its number, and never calls the submission malformed.
def IsNumbered (n : Nat) (v : Verdict) : Prop :=
  (∃ text, v.message = Verdict.test n text) ∧ v.type ≠ .malformed

theorem map_ok {α β : Type} {x : Except Trouble α} {f : α → β} {b : β}
    (made : (x >>= fun a => pure (f a)) = .ok b) : ∃ a, b = f a := by
  cases x with
  | error e => cases made
  | ok a =>
    cases made
    exact ⟨a, rfl⟩

theorem stopped_numbered {e : Fault} {p : Printed} {v : Verdict}
    (made : stopped c n p e = .ok v) : IsNumbered n v := by
  cases e with
  | limit what =>
    cases named : c.loopVariable with
    | none =>
      simp only [stopped, named] at made
      cases made
      exact ⟨⟨_, rfl⟩, nofun⟩
    | some var =>
      simp only [stopped, named] at made
      split at made
      · cases made
        exact ⟨⟨_, rfl⟩, nofun⟩
      · cases made
        exact ⟨⟨_, rfl⟩, nofun⟩
  | _ =>
    obtain ⟨text, rfl⟩ := map_ok made
    exact ⟨⟨_, rfl⟩, nofun⟩

theorem report_numbered {ending : Ending} {v : Verdict} (made : report c n t ending = .ok v) :
    IsNumbered n v := by
  cases ending with
  | stopped e p => exact stopped_numbered made
  | unfound =>
    cases made
    exact ⟨⟨_, rfl⟩, nofun⟩
  | answered a s =>
    change compareAnswer n t s a = .ok v at made
    unfold compareAnswer at made
    dsimp only at made
    split at made
    · cases made
      exact ⟨⟨_, rfl⟩, nofun⟩
    · cases expected : t.expected.shown with
      | error e =>
        rw [expected] at made
        cases made
      | ok shown =>
        rw [expected] at made
        obtain ⟨got, rfl⟩ := map_ok made
        exact ⟨⟨_, rfl⟩, nofun⟩

-- The verdict is made by the vector alone, and carries its number.
def Judged (c : Challenge) (p : Script.Program) (l : Limits) (numbered : TestCase × Nat)
    (v : Verdict) : Prop :=
  judgeVector c p l (numbered.2 + 1) numbered.1 = .ok v ∧ IsNumbered (numbered.2 + 1) v

-- There is one verdict for every vector, in their order.
def EachJudged (c : Challenge) (p : Script.Program) (l : Limits) (tests : List TestCase)
    (verdicts : List Verdict) : Prop :=
  List.Forall₂ (Judged c p l) tests.zipIdx verdicts

-- What a submission is refused for before any vector is run.
inductive Refused (c : Challenge) (l : Limits) (source : String) : Verdict → Prop where
  | precheck (found : precheck? (Text.trim source) = some v) : Refused c l source v
  | increment (passed : precheck? (Text.trim source) = none)
      (found : increment? c (Text.trim source) = some v) : Refused c l source v
  | rejection (passed : precheck? (Text.trim source) = none)
      (steady : increment? c (Text.trim source) = none)
      (refused : Script.Program.compile (Text.trim source) l.names = .error r) :
      Refused c l source (.malformed (rejectionText r))

structure Accepted (c : Challenge) (l : Limits) (source : String) (p : Script.Program) : Prop where
  passed : precheck? (Text.trim source) = none
  steady : increment? c (Text.trim source) = none
  read : Script.Program.compile (Text.trim source) l.names = .ok p

variable {p : Script.Program} {l : Limits} {tests : List TestCase}

theorem judgeVectors_each {verdicts : List Verdict} :
    judgeVectors c p l tests = .ok verdicts ↔ EachJudged c p l tests verdicts := by
  unfold judgeVectors EachJudged
  rw [mapM_iff]
  constructor
  · intro all
    exact all.imp fun _ _ made => ⟨made, report_numbered made⟩
  · intro all
    exact all.imp fun _ _ judged => judged.1

theorem works_judgeVectors :
    Works (judgeVectors c p l tests) ↔ ∀ t ∈ tests, Reportable t (runVector c p l t) := by
  unfold judgeVectors
  rw [works_mapM]
  constructor
  · intro all t member
    obtain ⟨i, given⟩ := List.getElem?_of_mem member
    have numbered : (t, i) ∈ tests.zipIdx := List.mk_mem_zipIdx_iff_getElem?.mpr given
    exact works_report.mp (all (t, i) numbered)
  · rintro all ⟨t, i⟩ numbered
    have given := List.mk_mem_zipIdx_iff_getElem?.mp numbered
    exact works_report.mpr (all t (List.mem_of_getElem? given))

theorem run_exact (c : Challenge) (p : Script.Program) (l : Limits) (tests : List TestCase) :
    ((∀ t ∈ tests, Reportable t (runVector c p l t)) ↔ EachJudged c p l tests (run c p l tests)) ∧
      ((∃ t ∈ tests, ¬ Reportable t (runVector c p l t)) →
        ∃ details, run c p l tests = [.malformed details]) := by
  rw [← works_judgeVectors, ← judgeVectors_each]
  unfold run
  cases judged : judgeVectors c p l tests with
  | ok verdicts =>
    have all := works_judgeVectors.mp ⟨verdicts, judged⟩
    refine ⟨⟨fun _ => rfl, fun _ => ⟨verdicts, rfl⟩⟩, ?_⟩
    rintro ⟨t, member, unreportable⟩
    exact absurd (all t member) unreportable
  | error e =>
    refine ⟨⟨?_, nofun⟩, fun _ => ⟨_, rfl⟩⟩
    rintro ⟨verdicts, same⟩
    cases same

-- Either the submission is refused, with a single verdict; or it is run on every vector. Then every
-- vector has its verdict exactly if all of them can be reported, and a single vector that cannot be
-- reported leaves nothing but the verdict that the submission is malformed.
theorem evaluate_exact (c : Challenge) (l : Limits) (source : String) (tests : List TestCase) :
    (∃ v, Refused c l source v ∧ evaluate c l source tests = [v]) ∨
      ∃ p, Accepted c l source p ∧
        ((∀ t ∈ tests, Reportable t (runVector c p l t)) ↔
          EachJudged c p l tests (evaluate c l source tests)) ∧
        ((∃ t ∈ tests, ¬ Reportable t (runVector c p l t)) →
          ∃ details, evaluate c l source tests = [.malformed details]) := by
  cases checked : precheck? (Text.trim source) with
  | some v =>
    refine .inl ⟨v, .precheck checked, ?_⟩
    unfold evaluate
    simp only [checked]
  | none =>
    cases counted : increment? c (Text.trim source) with
    | some v =>
      refine .inl ⟨v, .increment checked counted, ?_⟩
      unfold evaluate
      simp only [checked, counted]
    | none =>
      cases read : Script.Program.compile (Text.trim source) l.names with
      | error r =>
        refine .inl ⟨_, .rejection checked counted read, ?_⟩
        unfold evaluate
        simp only [checked, counted, read]
      | ok p =>
        have ran : evaluate c l source tests = run c p l tests := by
          unfold evaluate
          simp only [checked, counted, read]
        rw [ran]
        exact .inr ⟨p, ⟨checked, counted, read⟩, run_exact c p l tests⟩

-- One long answer is enough for the verdicts on the other vectors to be lost.
def anyFunction : Challenge := { id := "any" }

def longAnswer : String := "def f(x):\n    if x == 1:\n        return 1\n    return 10 ** 5000"

def twoVectors : List TestCase :=
  [{ input := .list [.int 1], expected := .int 1 }, { input := .list [.int 2], expected := .int 1 }]

theorem longAnswer_hides_verdicts :
    (∀ v, ¬ Refused anyFunction {} longAnswer v) ∧
      (evaluate anyFunction {} longAnswer (twoVectors.take 1)).map (·.passed) = [true] ∧
      (evaluate anyFunction {} longAnswer twoVectors).map (·.type) = [.malformed] := by
  have passed : precheck? (Text.trim longAnswer) = none := by decide +kernel
  have steady : increment? anyFunction (Text.trim longAnswer) = none := by decide +kernel
  have read : (Script.Program.compile (Text.trim longAnswer)).isOk = true := by decide +kernel
  refine ⟨?_, by decide +kernel, by decide +kernel⟩
  intro v refused
  cases refused with
  | precheck found =>
    rw [passed] at found
    cases found
  | increment _ found =>
    rw [steady] at found
    cases found
  | rejection _ _ refused =>
    rw [refused] at read
    cases read

end Judge
end ScriptArena
