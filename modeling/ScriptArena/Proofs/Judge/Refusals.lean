import ScriptArena.Proofs.Judge.Verdicts
import ScriptArena.Proofs.Run.Operations
import ScriptArena.Proofs.Run.Widths

namespace ScriptArena

def Trouble.IsLimit (t : Trouble) : Prop := ∃ what, t = .oversize what

-- One of a list fails, and all before it pass.
def FirstFails {α : Type} (passes fails : α → Prop) (xs : List α) : Prop :=
  ∃ before x after, xs = before ++ x :: after ∧ (∀ y ∈ before, passes y) ∧ fails x

theorem error_same {α β : Type} {e t : Trouble} :
    (Except.error e : Except Trouble α) = .error t ↔
      (Except.error e : Except Trouble β) = .error t := by
  rw [Except.error.injEq, Except.error.injEq]

section

variable {α β : Type} {passes fails : α → Prop} {f : β → α → Except Trouble β}

theorem firstFails_cons {x : α} {xs : List α} :
    FirstFails passes fails (x :: xs) ↔ fails x ∨ passes x ∧ FirstFails passes fails xs := by
  constructor
  · rintro ⟨before, y, after, same, earlier, last⟩
    cases before with
    | nil =>
      cases same
      exact .inl last
    | cons z before =>
      cases same
      obtain ⟨first, earlier⟩ := List.forall_mem_cons.mp earlier
      exact .inr ⟨first, before, y, after, rfl, earlier, last⟩
  · rintro (here | ⟨first, before, y, after, rfl, earlier, last⟩)
    · exact ⟨[], x, xs, rfl, nofun, here⟩
    · exact ⟨x :: before, y, after, rfl, List.forall_mem_cons.mpr ⟨first, earlier⟩, last⟩

theorem foldlM_passes (pass : ∀ b x, Works (f b x) ↔ passes x) {xs : List α} {b : β} :
    Works (xs.foldlM f b) ↔ ∀ x ∈ xs, passes x := by
  induction xs generalizing b with
  | nil => exact iff_of_true ⟨b, rfl⟩ nofun
  | cons x xs ih =>
    rw [List.foldlM_cons, works_bind, List.forall_mem_cons]
    constructor
    · rintro ⟨c, first, rest⟩
      exact ⟨(pass b x).mp ⟨c, first⟩, ih.mp rest⟩
    · rintro ⟨first, rest⟩
      obtain ⟨c, first⟩ := (pass b x).mpr first
      exact ⟨c, first, ih.mpr rest⟩

theorem foldlM_fails {t : Trouble} (pass : ∀ b x, Works (f b x) ↔ passes x)
    (fail : ∀ b x, f b x = .error t ↔ fails x) {xs : List α} {b : β} :
    xs.foldlM f b = .error t ↔ FirstFails passes fails xs := by
  induction xs generalizing b with
  | nil =>
    refine iff_of_false nofun ?_
    rintro ⟨before, x, after, same, _⟩
    cases before with
    | _ => cases same
  | cons x xs ih =>
    rw [List.foldlM_cons, firstFails_cons, ← fail b x, ← pass b x]
    cases first : f b x with
    | error e =>
      have stops : ¬ Works (Except.error e : Except Trouble β) := nofun
      simp [bind, Except.bind, stops]
    | ok c =>
      have passed : Works (Except.ok c : Except Trouble β) := ⟨c, rfl⟩
      simp only [bind, Except.bind, ih, passed, true_and, reduceCtorEq, false_or]

-- A sequence of steps stops at a limit if each of its steps does.
theorem foldlM_limit {t : Trouble} (each : ∀ b x t, f b x = .error t → t.IsLimit)
    {xs : List α} {b : β} (stopped : xs.foldlM f b = .error t) : t.IsLimit := by
  induction xs generalizing b with
  | nil => cases stopped
  | cons x xs ih =>
    rw [List.foldlM_cons] at stopped
    cases first : f b x with
    | error e =>
      rw [first] at stopped
      cases stopped
      exact each b x _ first
    | ok c =>
      rw [first] at stopped
      exact ih stopped

end

namespace Guard

variable {h : Heap} {l : Limits} {a b : Value} {t : Trouble}

theorem decimalText_fails {n : Int} :
    decimalText n = .error t ↔
      t = .failure .tooManyDigits ∧ 10 ^ Number.maxDecimalDigits ≤ n.natAbs := by
  have works := works_decimalText (n := n)
  cases found : decimalText n with
  | ok text =>
    have few := works.mp ⟨text, found⟩
    exact ⟨nofun, fun failed => absurd failed.2 (Nat.not_le.mpr few)⟩
  | error e =>
    have many : ¬ n.natAbs < 10 ^ Number.maxDecimalDigits := by
      intro few
      obtain ⟨text, shown⟩ := works.mpr few
      cases found.symm.trans shown
    unfold decimalText at found
    split at found
    · cases found
    · cases found
      constructor
      · intro same
        cases same
        exact ⟨rfl, Nat.not_lt.mp many⟩
      · rintro ⟨rfl, _⟩
        rfl

theorem shownNumber_fails {e : Int} (int : b.int? = some e) :
    shownNumber b = .error t ↔
      t = .failure .tooManyDigits ∧ 10 ^ Number.maxDecimalDigits ≤ e.natAbs := by
  cases b with
  | int n =>
    cases int
    exact decimalText_fails
  | bool c =>
    cases int
    have large : 1 < 10 ^ Number.maxDecimalDigits := Nat.one_lt_pow (by decide) (by decide)
    have small : (if c then 1 else 0 : Int).natAbs ≤ 1 := by
      cases c with
      | _ => decide
    exact iff_of_false nofun fun failed => absurd (Nat.le_trans failed.2 small) (Nat.not_le.mpr large)
  | _ => cases int

theorem oversize_other {α : Type} (other : ¬ t.IsLimit) (what : Oversize) :
    (Except.error (.oversize what) : Except Trouble α) ≠ .error t := by
  intro same
  cases same
  exact other ⟨what, rfl⟩

-- The complaint about an exponent shows it.
theorem complaint_fails {e : Int} (other : ¬ t.IsLimit) (int : b.int? = some e) :
    (do throw (.oversize (.exponent (← shownNumber b))) : Except Trouble Unit) = .error t ↔
      t = .failure .tooManyDigits ∧ 10 ^ Number.maxDecimalDigits ≤ e.natAbs := by
  rw [← shownNumber_fails int]
  cases shownNumber b with
  | ok text => exact iff_of_false (oversize_other other _) nofun
  | error t' => exact error_same

-- Beyond the ceiling on exponents nothing but the complaint can fail; up to it nothing does.
theorem power_fails (other : ¬ t.IsLimit) :
    power l a b = .error t ↔ t = .failure .tooManyDigits ∧ a.isReal ∧ exceedsOne a ∧
      ∃ e, b.int? = some e ∧ l.maxExponent < e.natAbs ∧
        10 ^ Number.maxDecimalDigits ≤ e.natAbs := by
  unfold power
  cases int : b.int? with
  | none => exact ⟨nofun, by rintro ⟨_, _, _, e, same, _⟩; cases same⟩
  | some e =>
    cases real : a.isReal with
    | false => exact ⟨nofun, by rintro ⟨_, same, _⟩; cases same⟩
    | true =>
      dsimp only
      rw [if_neg (by decide)]
      by_cases large : l.maxExponent < e.natAbs ∧ exceedsOne a
      · rw [if_pos large, complaint_fails other int]
        constructor
        · rintro ⟨fault, many⟩
          exact ⟨fault, rfl, large.2, e, rfl, large.1, many⟩
        · rintro ⟨fault, _, _, e', same, _, many⟩
          cases same
          exact ⟨fault, many⟩
      · rw [if_neg large]
        refine iff_of_false ?_ ?_
        · split
          · split
            · exact oversize_other other _
            · exact nofun
          · exact nofun
        · rintro ⟨_, _, exceeds, e', same, beyond, _⟩
          cases same
          exact large ⟨beyond, exceeds⟩

theorem checkSize_fails {what : Oversize} {size : Int} (stopped : checkSize l what size = .error t) :
    t.IsLimit := by
  unfold checkSize at stopped
  split at stopped
  · cases stopped
    exact ⟨what, rfl⟩
  · cases stopped

theorem product_fails (stopped : product h l a b = .error t) : t.IsLimit := by
  unfold product at stopped
  split at stopped
  · exact checkSize_fails stopped
  · exact checkSize_fails stopped
  · split at stopped
    · cases stopped
      exact ⟨.integer, rfl⟩
    · cases stopped
  · cases stopped

-- A run of digits can be read, and is no larger than the ceiling.
def Small (l : Limits) (ds : List Nat) : Prop :=
  ds.length ≤ Number.maxDecimalDigits ∧ (Width.digits ds).value ≤ l.maxSequenceLength

-- A run of digits is too long to be read.
def Unread (t : Trouble) (ds : List Nat) : Prop :=
  Number.maxDecimalDigits < ds.length ∧ t = .failure (.tooManyDigitsRead ds.length)

def checkNumber (l : Limits) (ds : List Nat) : Except Trouble Nat := do
  let n ← readDigits ds
  if l.maxSequenceLength < n then throw (.oversize .width)
  return n

variable {ds : List Nat}

theorem checkNumber_passes (ds : List Nat) : Works (checkNumber l ds) ↔ Small l ds := by
  unfold checkNumber readDigits Small
  split
  · rename_i many
    exact iff_of_false nofun fun small => absurd small.1 (Nat.not_le.mpr many)
  · rename_i few
    dsimp only [bind, Except.bind]
    split
    · rename_i large
      exact iff_of_false nofun fun small => absurd small.2 (Int.not_le.mpr large)
    · rename_i small
      exact iff_of_true ⟨_, rfl⟩ ⟨Nat.not_lt.mp few, Int.not_lt.mp small⟩

theorem checkNumber_fails (other : ¬ t.IsLimit) (ds : List Nat) :
    checkNumber l ds = .error t ↔ Unread t ds := by
  unfold checkNumber readDigits Unread
  split
  · rename_i many
    simp [bind, Except.bind, many, eq_comm]
  · rename_i few
    refine iff_of_false ?_ fun unread => few unread.1
    dsimp only [bind, Except.bind]
    split
    · exact oversize_other other _
    · exact nofun

def Width.Passes (l : Limits) : Width → Prop
  | .star => True
  | .digits ds => Small l ds

def Width.Fails (t : Trouble) : Width → Prop
  | .star => False
  | .digits ds => Unread t ds

theorem addWidth_digits (size : Nat) :
    addWidth l size (.digits ds) = do return size + (← checkNumber l ds) := by
  cases read : readDigits ds with
  | error e => simp only [addWidth, checkNumber, read, bind, Except.bind]
  | ok n =>
    simp only [addWidth, checkNumber, read, bind, Except.bind]
    by_cases large : l.maxSequenceLength < n
    · rw [if_pos large, if_pos large]
      rfl
    · rw [if_neg large, if_neg large]
      rfl

theorem addWidth_passes (size : Nat) (w : Width) : Works (addWidth l size w) ↔ w.Passes l := by
  cases w with
  | star => exact iff_of_true ⟨_, rfl⟩ trivial
  | digits ds =>
    rw [addWidth_digits, works_map]
    exact checkNumber_passes ds

theorem addWidth_fails (other : ¬ t.IsLimit) (size : Nat) (w : Width) :
    addWidth l size w = .error t ↔ w.Fails t := by
  cases w with
  | star => exact iff_of_false nofun id
  | digits ds =>
    rw [addWidth_digits]
    change _ ↔ Unread t ds
    rw [← checkNumber_fails (l := l) other]
    cases checkNumber l ds with
    | error e => exact error_same
    | ok n => exact iff_of_false nofun nofun

-- A group of widths, as it stands behind a percent sign.
def Starless (ws : List Width) : Prop := ws.any Width.isStar = false

def GroupPasses (l : Limits) (ws : List Width) : Prop := Starless ws ∧ ∀ w ∈ ws, w.Passes l

def GroupFails (l : Limits) (t : Trouble) (ws : List Width) : Prop :=
  Starless ws ∧ FirstFails (Width.Passes l) (Width.Fails t) ws

theorem addWidths_passes (size : Nat) (ws : List Width) :
    Works (addWidths l size ws) ↔ GroupPasses l ws := by
  unfold addWidths GroupPasses Starless
  cases ws.any Width.isStar with
  | true => exact iff_of_false nofun nofun
  | false =>
    rw [if_neg Bool.false_ne_true]
    exact (foldlM_passes addWidth_passes).trans (and_iff_right rfl).symm

theorem addWidths_fails (other : ¬ t.IsLimit) (size : Nat) (ws : List Width) :
    addWidths l size ws = .error t ↔ GroupFails l t ws := by
  unfold addWidths GroupFails Starless
  cases ws.any Width.isStar with
  | true => exact iff_of_false (oversize_other other _) nofun
  | false =>
    rw [if_neg Bool.false_ne_true]
    exact (foldlM_fails addWidth_passes (addWidth_fails other)).trans
      (and_iff_right rfl).symm

theorem textSize_fails {v : Value} (stopped : textSize h l v = .error t) : t.IsLimit := by
  unfold textSize at stopped
  generalize l.maxSequenceLength.toNat / 2 + 2 = fuel at stopped
  generalize [v] = pending at stopped
  generalize 0 = size at stopped
  induction fuel generalizing pending size with
  | zero =>
    cases stopped
    exact ⟨.text, rfl⟩
  | succ fuel ih =>
    cases pending with
    | nil => cases stopped
    | cons v pending =>
      rw [sizeFrom] at stopped
      split at stopped
      · cases stopped
        exact ⟨.text, rfl⟩
      · exact ih _ _ stopped

-- A template fails if a width in it is too long to be read, before one that is refused.
theorem template_fails {cs : List Char} {args : Value} (other : ¬ t.IsLimit) :
    template h l cs args = .error t ↔
      ∃ groups, Scans cs groups ∧ FirstFails (GroupPasses l) (GroupFails l t) groups := by
  obtain ⟨groups, scans, found⟩ := widths_scans (Nat.lt_succ_self cs.length) []
  have folds : groups.foldlM (addWidths l) cs.length = .error t ↔
      FirstFails (GroupPasses l) (GroupFails l t) groups :=
    foldlM_fails addWidths_passes (addWidths_fails other)
  have same : (∃ groups, Scans cs groups ∧ FirstFails (GroupPasses l) (GroupFails l t) groups) ↔
      FirstFails (GroupPasses l) (GroupFails l t) groups := by
    constructor
    · rintro ⟨again, scans', fails⟩
      exact scans_unique scans scans' ▸ fails
    · intro fails
      exact ⟨groups, scans, fails⟩
  rw [same, ← folds]
  unfold template
  rw [found, List.reverse_nil, List.nil_append]
  cases groups.foldlM (addWidths l) cs.length with
  | error e => exact error_same
  | ok size =>
    refine iff_of_false (fun stopped => other ?_) nofun
    dsimp only [bind, Except.bind] at stopped
    split at stopped
    · rename_i sizing
      cases stopped
      refine foldlM_limit (fun _ v t failed => ?_) sizing
      cases sized : textSize h l v with
      | error e =>
        rw [sized] at failed
        cases failed
        exact textSize_fails sized
      | ok n =>
        rw [sized] at failed
        cases failed
    · exact checkSize_fails stopped

-- A loop that checks one run of digits after the other.
theorem loop_checks (numbers : List (List Nat)) (k : Nat) :
    (do
      for ds in numbers do
        if l.maxSequenceLength < (← readDigits ds) then throw (.oversize .width)
      : Except Trouble Unit) = (numbers.foldlM (fun _ ds => checkNumber l ds) k).map fun _ => () := by
  induction numbers generalizing k with
  | nil => rfl
  | cons ds rest ih =>
    rw [List.forIn_cons, List.foldlM_cons]
    cases read : readDigits ds with
    | error e => simp only [checkNumber, read, bind, Except.bind, Except.map]
    | ok n =>
      by_cases large : l.maxSequenceLength < n
      · simp only [checkNumber, read, bind, Except.bind, if_pos large]
        rfl
      · simp only [checkNumber, read, bind, Except.bind, if_neg large]
        exact ih n

-- So does a format specification.
theorem formatSpec_fails {spec : String} (other : ¬ t.IsLimit) :
    formatSpec l spec = .error t ↔
      FirstFails (Small l) (Unread t) (numbersIn spec.length spec.toList) := by
  have folds : (numbersIn spec.length spec.toList).foldlM (fun _ ds => checkNumber l ds) 0 =
      .error t ↔ FirstFails (Small l) (Unread t) (numbersIn spec.length spec.toList) :=
    foldlM_fails (fun _ => checkNumber_passes) fun _ => checkNumber_fails other
  rw [← folds, formatSpec, loop_checks _ 0]
  cases (numbersIn spec.length spec.toList).foldlM (fun _ ds => checkNumber l ds) 0 with
  | error e => exact error_same
  | ok n => exact iff_of_false nofun nofun

theorem numbersIn_ones (k : Nat) :
    numbersIn (k + 1) (List.replicate (k + 1) '1') = [List.replicate (k + 1) 1] := by
  have one : Text.isDecimal '1' = true ∧ Text.decimalValue? '1' = some 1 := by decide
  have nothing : numbersIn k [] = [] := by
    cases k with
    | _ => rfl
  rw [numbersIn]
  simp [one, nothing]

theorem ones_fail {k : Nat} (many : Number.maxDecimalDigits < k) :
    formatSpec l (String.ofList (List.replicate k '1')) =
      .error (.failure (.tooManyDigitsRead k)) := by
  have other : ¬ (Trouble.failure (.tooManyDigitsRead k)).IsLimit := nofun
  rw [formatSpec_fails other]
  cases k with
  | zero => cases many
  | succ k =>
    rw [String.length_ofList, String.toList_ofList, List.length_replicate, numbersIn_ones]
    refine firstFails_cons.mpr (.inl ?_)
    unfold Unread
    rw [List.length_replicate]
    exact ⟨many, rfl⟩

end Guard

-- An integer has too many digits to be shown, or a numeral too many to be read.
def Trouble.OnDigits (t : Trouble) : Prop :=
  t = .failure .tooManyDigits ∨ ∃ k, t = .failure (.tooManyDigitsRead k)

namespace Judge

theorem stopped_limit {e : Trouble} (limit : e.IsLimit) (c : Challenge) (n : Nat) (q : Printed) :
    ∃ v, stopped c n q e.toFault = .ok v ∧ v.shortcoming = some .iterationLimit := by
  obtain ⟨what, rfl⟩ := limit
  change ∃ v, stopped c n q (.limit (.resource what)) = .ok v ∧ _
  unfold stopped
  dsimp only
  split
  · split
    · exact ⟨_, rfl, rfl⟩
    · exact ⟨_, rfl, rfl⟩
  · exact ⟨_, rfl, rfl⟩

theorem stopped_digits {e : Trouble} (digits : e.OnDigits) (c : Challenge) (n : Nat) (q : Printed) :
    ∃ v, stopped c n q e.toFault = .ok v ∧ v.shortcoming = some .runtimeError := by
  obtain rfl | ⟨k, rfl⟩ := digits
  · exact ⟨_, rfl, rfl⟩
  · exact ⟨_, rfl, rfl⟩

-- What the guards of powers, products, templates and format specifications stop a submission with,
-- and how it is judged. Only too many digits are no limit: those of an exponent that is refused, and
-- those of a width that stands before any that is refused.
theorem guards_judged (l : Limits) :
    (∀ a b t, ¬ t.IsLimit → (Guard.power l a b = .error t ↔ t = .failure .tooManyDigits ∧ a.isReal ∧
        Guard.exceedsOne a ∧ ∃ e, b.int? = some e ∧ l.maxExponent < e.natAbs ∧
          10 ^ Number.maxDecimalDigits ≤ e.natAbs)) ∧
      (∀ h a b t, Guard.product h l a b = .error t → t.IsLimit) ∧
      (∀ h cs args t, ¬ t.IsLimit → (Guard.template h l cs args = .error t ↔
        ∃ groups, Guard.Scans cs groups ∧
          FirstFails (Guard.GroupPasses l) (Guard.GroupFails l t) groups)) ∧
      (∀ spec t, ¬ t.IsLimit → (Guard.formatSpec l spec = .error t ↔
        FirstFails (Guard.Small l) (Guard.Unread t)
          (Guard.numbersIn spec.length spec.toList))) ∧
      (∀ (m : Machine) op a b t, Guard.binary m.heap l op a b = .error t →
        Run.operate op a b l m = .error t.toFault m) ∧
      ∀ c p n t (e : Trouble) q, runVector c p l t = .stopped e.toFault q →
        (e.IsLimit → ∃ v, judgeVector c p l n t = .ok v ∧
          v.shortcoming = some .iterationLimit) ∧
        (e.OnDigits → ∃ v, judgeVector c p l n t = .ok v ∧
          v.shortcoming = some .runtimeError) := by
  refine ⟨?_, ?_, ?_, ?_, ?_, ?_⟩
  · intro a b t other
    exact Guard.power_fails other
  · intro h a b t stopped
    exact Guard.product_fails stopped
  · intro h cs args t other
    exact Guard.template_fails other
  · intro spec t other
    exact Guard.formatSpec_fails other
  · intro m op a b t refused
    rw [Run.run_operate, refused]
  · intro c p n t e q ending
    unfold judgeVector
    rw [ending]
    exact ⟨fun limit => stopped_limit limit c n q, fun digits => stopped_digits digits c n q⟩

-- Two to the power of a power of ten.
def tower (n : Nat) : Script.Program :=
  ⟨[.assign [.name "x" 1]
    (.binary (.const (.int 2)) .pow (.binary (.const (.int 10)) .pow (.const (.int n))))], rfl⟩

def fault? (p : Script.Program) : Option Fault :=
  match Session.start p {} with
  | .error e => some e
  | .ok _ => none

theorem runVector_fault {p : Script.Program} {e : Fault} (faulty : fault? p = some e) (c : Challenge)
    (t : TestCase) : runVector c p {} t = .stopped e {} := by
  unfold fault? at faulty
  unfold runVector
  cases started : Session.start p {} with
  | error e' =>
    rw [started] at faulty
    cases faulty
    rfl
  | ok s =>
    rw [started] at faulty
    cases faulty

def exercise : Challenge := { id := "tower" }

def noArguments : TestCase := { input := .list [], expected := .none }

-- An exponent beyond the ceiling that can be shown, and one that cannot.
theorem hundredThousand_judged :
    (∃ v, judgeVector exercise (tower 5) {} 1 noArguments = .ok v ∧
        v.shortcoming = some .iterationLimit) ∧
      Guard.power {} (.int 2) (.int (10 ^ Number.maxDecimalDigits : Nat)) =
        .error (.failure .tooManyDigits) := by
  obtain ⟨powers, _, _, _, _, judged⟩ := guards_judged {}
  have shown : fault? (tower 5) = some (Trouble.oversize (.exponent "100000")).toFault := by
    decide +kernel
  have other : ¬ (Trouble.failure .tooManyDigits).IsLimit := nofun
  have beyond : 10 ^ 4 < 10 ^ Number.maxDecimalDigits :=
    Nat.pow_lt_pow_right (by decide) (by decide)
  refine ⟨(judged _ _ _ _ _ _ (runVector_fault shown _ _)).1 ⟨_, rfl⟩, (powers _ _ _ other).mpr ?_⟩
  exact ⟨rfl, rfl, by decide, _, rfl, Int.ofNat_lt.mpr beyond, Nat.le_refl _⟩

-- The exponent is beyond the ceiling, and so are the digits that it has; and so is a width.
theorem towerDigits_reported :
    (∃ v, judgeVector exercise (tower 5000) {} 1 noArguments = .ok v ∧
        v.shortcoming = some .runtimeError) ∧
      Guard.formatSpec {} (String.ofList (List.replicate 4301 '1')) =
        .error (.failure (.tooManyDigitsRead 4301)) := by
  constructor
  · have hidden : fault? (tower 5000) = some (Trouble.failure .tooManyDigits).toFault := by
      decide +kernel
    unfold judgeVector
    rw [runVector_fault hidden]
    exact stopped_digits (.inl rfl) exercise 1 {}
  · exact Guard.ones_fail (by decide)

end Judge
end ScriptArena
