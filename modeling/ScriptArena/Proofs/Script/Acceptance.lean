import ScriptArena.Proofs.Script.Occurrence

namespace ScriptArena.Script

def IsReservedName (name : String) : Prop := ['_', '_'] <+: name.toList

def IsPrivateName (name : String) : Prop := ['_'] <+: name.toList

-- What an expression has to be like at its place, whatever its parts are.
def Expr.Allowed (place : Place) : Expr → Prop
  | .name word _ => ¬ IsReservedName word
  | .attribute _ member _ => place = .callee ∧ ¬ IsPrivateName member
  | .binary _ op _ => op.supported = true
  | .unary op _ => op ≠ .invert
  | .dict entries _ => ∀ entry ∈ entries, entry.key?.isSome = true
  | .call _ _ keywords _ => ∀ keyword ∈ keywords, keyword.isSpread = false
  | .listComp _ generators => ∀ g ∈ generators, g.isAsync = false ∧ IsTarget g.target
  | .unsupported .. => False
  | .const _ | .list _ | .tuple _ | .allOf _ | .anyOf _ | .compare .. | .conditional ..
  | .subscript .. | .slice .. | .template _ | .field .. => True

-- What a statement has to be like, whatever its parts are.
def Stmt.Allowed (around : Around) : Stmt → Prop
  | .funcDef name params _ _ plain decorated _ =>
    decorated = false ∧ plain = true ∧ ¬ IsReservedName name ∧ ∀ p ∈ params, ¬ IsReservedName p
  | .giveBack .. => around.inFunction = true
  | .assign targets _ => ∀ target ∈ targets, IsTarget target
  | .augAssign target op _ _ => IsPlainTarget target ∧ op.supported = true
  | .forLoop target .. => IsTarget target
  | .leave _ | .next _ => around.inLoop = true
  | .unsupported .. => False
  | .pass | .expr _ | .branch .. | .whileLoop .. => True

-- Every node within a node is allowed.
def AllAllowed (node : Node) : Prop := ∀ inner, Within node inner → inner.2.Allowed inner.1

-- Every node of a module is allowed, but for those within the targets of `for` loops.
def Module.SupportedOutsideLoopTargets (m : Module) : Prop :=
  ∀ around s, m.Has around s → s.Allowed around ∧ ∀ e ∈ s.parts, AllAllowed (.operand, e)

def Module.LoopTargetsSupported (m : Module) : Prop :=
  ∀ around s target, m.Has around s → s.loopTarget? = some target → AllAllowed (.operand, target)

-- Every node of a module is allowed.
def Module.Supported (m : Module) : Prop :=
  ∀ around s, m.Has around s →
    s.Allowed around ∧ ∀ e, (e ∈ s.parts ∨ s.loopTarget? = some e) → AllAllowed (.operand, e)

-- A method counts as one node with its call.
def Node.carried : Node → Expr
  | (.callee, .attribute value _ _) => value
  | (_, e) => e

def Expr.FitsIn : Nat → Expr → Prop
  | 0, _ => False
  | room + 1, e => ∀ part ∈ e.parts, FitsIn room part.carried

def Stmt.FitsIn : Nat → Stmt → Prop
  | 0, _ => False
  | room + 1, s =>
    (∀ e ∈ s.parts, e.FitsIn room) ∧ ∀ part ∈ s.inner ⟨false, false⟩, FitsIn room part.2

-- No node of the module lies deeper than `room` nodes.
def Module.FitsIn (room : Nat) (m : Module) : Prop := ∀ s ∈ m, s.FitsIn room

theorem check_bind {x : Check} {f : Unit → Check} :
    (x >>= f) = .ok () ↔ x = .ok () ∧ f () = .ok () := by
  cases x <;> simp [bind, Except.bind]

theorem check_each {α : Type} {f : α → Check} (items : List α) :
    items.forM f = .ok () ↔ ∀ x ∈ items, f x = .ok () := by
  induction items with
  | nil => simp [pure, Except.pure]
  | cons x rest ih =>
    rw [List.forM_eq_forM, List.forM_cons, check_bind, ← List.forM_eq_forM, ih]
    simp

theorem check_option {α : Type} {f : α → Check} (item : Option α) :
    item.forM f = .ok () ↔ ∀ x ∈ item.toList, f x = .ok () := by
  cases item <;> simp [Option.forM, pure, Except.pure]

theorem check_refuse {c : Prop} [Decidable c] {refusal : Refusal} {rest : Check} :
    (if c then ((Except.error refusal : Check) >>= fun _ => rest) else rest) = .ok () ↔
      ¬ c ∧ rest = .ok () := by
  by_cases h : c <;> simp [h, bind, Except.bind]

theorem isReserved_iff {name : String} : isReserved name = true ↔ IsReservedName name := by
  rw [IsReservedName, List.prefix_iff_eq_take]
  simpa [isReserved] using eq_comm

theorem isPrivate_iff {name : String} : isPrivate name = true ↔ IsPrivateName name := by
  rw [IsPrivateName, List.prefix_iff_eq_take, isPrivate]
  cases name.toList with
  | nil => simp
  | cons c rest => simpa using eq_comm

theorem checkName_iff {name : String} {line : Nat} :
    checkName name line = .ok () ↔ ¬ IsReservedName name := by
  unfold checkName forbid
  rw [← isReserved_iff]
  split <;> simp_all

theorem checkOperator_iff {op : Operator} : checkOperator op = .ok () ↔ op.supported = true := by
  unfold checkOperator Operator.supported
  cases op.label? <;> simp

mutual

theorem checkTarget_iff (e : Expr) : checkTarget e = .ok () ↔ IsTarget e := by
  cases e with
  | name => simp [checkTarget, IsTarget.name]
  | subscript => simp [checkTarget, IsTarget.item]
  | tuple items =>
    rw [checkTarget, checkTargets_iff items]
    exact ⟨.tuple, fun target => by cases target with | tuple all => exact all⟩
  | list items =>
    rw [checkTarget, checkTargets_iff items]
    exact ⟨.list, fun target => by cases target with | list all => exact all⟩
  | _ =>
    constructor
    · intro checked
      simp [checkTarget] at checked
    · intro target
      cases target

theorem checkTargets_iff (es : List Expr) : checkTargets es = .ok () ↔ ∀ e ∈ es, IsTarget e := by
  cases es with
  | nil => simp [checkTargets]
  | cons e rest =>
    rw [checkTargets, check_bind, checkTarget_iff e, checkTargets_iff rest]
    simp

end

-- What the walk finds of a part: of a method it looks at the name, and on at the value.
def Node.Checked (room : Nat) : Node → Prop
  | (.callee, .attribute value member _) =>
    ¬ IsPrivateName member ∧ checkExpr room value = .ok ()
  | (_, e) => checkExpr room e = .ok ()

theorem checked_operands {room : Nat} (es : List Expr) :
    (∀ part ∈ operands es, part.Checked room) ↔ ∀ e ∈ es, checkExpr room e = .ok () := by
  simp [operands, Node.Checked]

theorem checkCallee_iff {room : Nat} (e : Expr) :
    checkCallee (checkExpr room) e = .ok () ↔ Node.Checked room (.callee, e) := by
  unfold checkCallee
  split
  · simp only [forbid, check_refuse, isPrivate_iff, Node.Checked]
  · rename_i other
    rw [Node.Checked]
    exact fun value member line _ => other value member line

theorem checkGenerator_iff {room : Nat} (g : Generator) :
    checkGenerator (checkExpr room) g = .ok () ↔
      (g.isAsync = false ∧ IsTarget g.target) ∧ ∀ e ∈ g.parts, checkExpr room e = .ok () := by
  cases g with
  | mk target iter conditions isAsync =>
    simp only [checkGenerator, check_refuse, check_bind, check_each, checkTarget_iff,
      Generator.isAsync, Generator.target, Generator.parts, List.forall_mem_cons,
      Bool.not_eq_true, and_assoc]

theorem checkExpr_succ {room : Nat} (e : Expr) :
    checkExpr (room + 1) e = .ok () ↔
      e.Allowed .operand ∧ ∀ part ∈ e.parts, part.Checked room := by
  cases e with
  | const c => simp [checkExpr, Expr.Allowed, Expr.parts]
  | name word line => simp [checkExpr, checkName_iff, Expr.Allowed, Expr.parts]
  | list items | tuple items | allOf items | anyOf items | template items =>
    simp only [checkExpr, check_each, Expr.Allowed, Expr.parts, checked_operands, true_and]
  | dict entries line =>
    have present : (¬ (entries.any (·.key?.isNone)) = true) ↔
        ∀ entry ∈ entries, entry.key?.isSome = true := by
      simp [Option.isSome_iff_ne_none]
    simp only [checkExpr, forbid, check_refuse, check_bind, check_each, present, Expr.Allowed,
      Expr.parts, checked_operands, List.forall_mem_append]
  | binary left op right =>
    simp only [checkExpr, check_bind, checkOperator_iff, Expr.Allowed, Expr.parts,
      checked_operands, List.forall_mem_cons, List.not_mem_nil, false_implies, implies_true,
      and_true]
    exact and_left_comm
  | unary op operand =>
    simp only [checkExpr, check_refuse, Expr.Allowed, Expr.parts, checked_operands,
      List.forall_mem_singleton, ne_eq]
  | compare left links =>
    simp only [checkExpr, check_bind, check_each, Expr.Allowed, Expr.parts, checked_operands,
      List.forall_mem_cons, true_and]
  | conditional test body orelse =>
    simp only [checkExpr, check_bind, Expr.Allowed, Expr.parts, checked_operands,
      List.forall_mem_cons, List.not_mem_nil, false_implies, implies_true, and_true,
      true_and]
  | call callee args keywords line =>
    have named : (¬ keywords.any Keyword.isSpread = true) ↔
        ∀ keyword ∈ keywords, keyword.isSpread = false := by simp
    simp only [checkExpr, forbid, check_refuse, named, check_bind, checkCallee_iff, check_each,
      Expr.Allowed, Expr.parts, List.forall_mem_cons, checked_operands, List.forall_mem_append]
  | «attribute» value member line =>
    simp [checkExpr, forbid, Expr.Allowed]
  | subscript container key =>
    simp only [checkExpr, check_bind, Expr.Allowed, Expr.parts, List.forall_mem_cons,
      List.not_mem_nil, false_implies, implies_true, and_true, true_and]
    rfl
  | slice lower upper step line =>
    simp only [checkExpr, check_bind, check_option, Expr.Allowed, Expr.parts, checked_operands,
      List.forall_mem_append, true_and, and_assoc]
  | listComp element generators =>
    simp only [checkExpr, check_bind, check_each, checkGenerator_iff, Expr.Allowed, Expr.parts,
      checked_operands, List.forall_mem_cons, List.forall_mem_flatMap, forall_and]
    exact and_left_comm
  | field value conversion spec =>
    simp only [checkExpr, check_bind, check_option, Expr.Allowed, Expr.parts, checked_operands,
      List.forall_mem_cons, true_and]
  | unsupported what line =>
    simp [checkExpr, forbid, Expr.Allowed]

theorem allAllowed_iff (node : Node) :
    AllAllowed node ↔ node.2.Allowed node.1 ∧ ∀ part ∈ node.2.parts, AllAllowed part :=
  forall_within (fun inner : Node => inner.2.Allowed inner.1) node

-- Only for a method it matters whether it is called.
theorem allowed_place {place : Place} (e : Expr)
    (called : ∀ value member line, e = .attribute value member line → place ≠ .callee) :
    e.Allowed place ↔ e.Allowed .operand := by
  cases e with
  | «attribute» value member line =>
    have elsewhere := called value member line rfl
    simp [Expr.Allowed, elsewhere]
  | _ => exact Iff.rfl

theorem checked_iff {room : Nat}
    (all : ∀ e, checkExpr room e = .ok () ↔ e.FitsIn room ∧ AllAllowed (.operand, e))
    (node : Node) : node.Checked room ↔ node.carried.FitsIn room ∧ AllAllowed node := by
  unfold Node.Checked Node.carried
  split
  · rename_i value member line
    have parts : (∀ part ∈ (Expr.attribute value member line).parts, AllAllowed part) ↔
        AllAllowed (.operand, value) := by simp [Expr.parts, operands]
    rw [all value, allAllowed_iff (.callee, .attribute value member line), parts]
    simp only [Expr.Allowed, true_and]
    exact and_left_comm
  · rename_i place e other
    have same : AllAllowed (place, e) ↔ AllAllowed (.operand, e) := by
      rw [allAllowed_iff, allAllowed_iff (.operand, e)]
      refine and_congr_left fun _ => allowed_place e ?_
      rintro value member line rfl rfl
      exact other value member line rfl rfl
    rw [all e, same]

theorem checkExpr_iff (room : Nat) (e : Expr) :
    checkExpr room e = .ok () ↔ e.FitsIn room ∧ AllAllowed (.operand, e) := by
  induction room generalizing e with
  | zero => simp [checkExpr, Expr.FitsIn]
  | succ room ih =>
    rw [checkExpr_succ, allAllowed_iff, Expr.FitsIn]
    simp only [checked_iff ih, forall_and]
    exact and_left_comm

theorem isPlainTarget_iff {e : Expr} : e.isPlainTarget = true ↔ IsPlainTarget e := by
  cases e with
  | name | subscript => simp [Expr.isPlainTarget, IsPlainTarget.name, IsPlainTarget.item]
  | _ =>
    constructor
    · intro plain
      cases plain
    · intro plain
      cases plain

theorem checkStmt_succ {room : Nat} (around : Around) (s : Stmt) :
    checkStmt (room + 1) around s = .ok () ↔
      s.Allowed around ∧ (∀ e ∈ s.parts, checkExpr room e = .ok ()) ∧
        ∀ part ∈ s.inner around, checkStmt room part.1 part.2 = .ok () := by
  cases s with
  | funcDef name params defaults body plain decorated line =>
    simp only [checkStmt, forbid, check_refuse, check_bind, check_each, checkName_iff,
      Stmt.Allowed, Stmt.parts, Stmt.inner, List.forall_mem_map, and_assoc]
    simp
  | giveBack value line =>
    simp only [checkStmt, forbid, check_refuse, check_option, Stmt.Allowed, Stmt.parts, Stmt.inner]
    simp
  | pass => simp [checkStmt, Stmt.Allowed, Stmt.parts, Stmt.inner]
  | expr e => simp [checkStmt, Stmt.Allowed, Stmt.parts, Stmt.inner]
  | assign targets value =>
    simp only [checkStmt, check_bind, check_each, checkTargets_iff, Stmt.Allowed, Stmt.parts,
      Stmt.inner, List.forall_mem_append, List.forall_mem_singleton]
    simp
  | augAssign target op value line =>
    simp only [checkStmt, forbid, check_refuse, check_bind, Bool.not_eq_true', Bool.not_eq_false,
      isPlainTarget_iff, checkOperator_iff, Stmt.Allowed, Stmt.parts, Stmt.inner]
    grind
  | branch test body orelse =>
    simp only [checkStmt, check_bind, check_each, Stmt.Allowed, Stmt.parts, Stmt.inner,
      List.forall_mem_map, List.forall_mem_append, List.forall_mem_singleton, true_and]
  | whileLoop test body orelse =>
    simp only [checkStmt, check_bind, check_each, Stmt.Allowed, Stmt.parts, Stmt.inner,
      List.forall_mem_append, List.forall_mem_map, List.forall_mem_singleton, true_and]
  | forLoop target iter body orelse =>
    simp only [checkStmt, check_bind, check_each, checkTarget_iff, Stmt.Allowed, Stmt.parts,
      Stmt.inner, List.forall_mem_append, List.forall_mem_map, List.forall_mem_singleton]
  | leave line | next line =>
    simp [checkStmt, forbid, Stmt.Allowed, Stmt.parts, Stmt.inner]
  | unsupported what line => simp [checkStmt, forbid, Stmt.Allowed]

-- Whether a statement fits does not depend on what stands around it.
theorem inner_around (s : Stmt) (around : Around) (P : Stmt → Prop) :
    (∀ part ∈ s.inner around, P part.2) ↔ ∀ part ∈ s.inner ⟨false, false⟩, P part.2 := by
  cases s <;> simp [Stmt.inner, or_imp, forall_and]

def StmtSupported (node : Around × Stmt) : Prop :=
  ∀ inner, StmtWithin node inner →
    inner.2.Allowed inner.1 ∧ ∀ e ∈ inner.2.parts, AllAllowed (.operand, e)

theorem stmtSupported_iff (around : Around) (s : Stmt) :
    StmtSupported (around, s) ↔
      (s.Allowed around ∧ ∀ e ∈ s.parts, AllAllowed (.operand, e)) ∧
        ∀ part ∈ s.inner around, StmtSupported part :=
  forall_within (fun inner : Around × Stmt =>
    inner.2.Allowed inner.1 ∧ ∀ e ∈ inner.2.parts, AllAllowed (.operand, e)) (around, s)

theorem checkStmt_iff (room : Nat) (around : Around) (s : Stmt) :
    checkStmt room around s = .ok () ↔ s.FitsIn room ∧ StmtSupported (around, s) := by
  induction room generalizing around s with
  | zero => simp [checkStmt, Stmt.FitsIn]
  | succ room ih =>
    rw [checkStmt_succ, stmtSupported_iff, Stmt.FitsIn, ← inner_around s around]
    simp only [ih, checkExpr_iff, forall_and]
    grind

theorem supportedOutside_iff (m : Module) :
    m.SupportedOutsideLoopTargets ↔ ∀ s ∈ m, StmtSupported (⟨false, false⟩, s) := by
  constructor
  · rintro supported s member ⟨around, inner⟩ within
    exact supported around inner ⟨s, member, within⟩
  · rintro supported around s ⟨top, member, within⟩
    exact supported top member (around, s) within

theorem supported_iff (m : Module) :
    m.Supported ↔ m.SupportedOutsideLoopTargets ∧ m.LoopTargetsSupported := by
  constructor
  · intro supported
    refine ⟨fun around s has => ?_, fun around s target has isTarget => ?_⟩
    · obtain ⟨allowed, parts⟩ := supported around s has
      exact ⟨allowed, fun e member => parts e (.inl member)⟩
    · exact (supported around s has).2 target (.inr isTarget)
  · rintro ⟨outside, targets⟩ around s has
    obtain ⟨allowed, parts⟩ := outside around s has
    refine ⟨allowed, ?_⟩
    rintro e (member | isTarget)
    · exact parts e member
    · exact targets around s e has isTarget

theorem check_iff (m : Module) :
    m.check = .ok () ↔ m.SupportedOutsideLoopTargets ∧ m.FitsIn maxNesting := by
  rw [Module.check, check_each, supportedOutside_iff, Module.FitsIn]
  simp only [checkStmt_iff, forall_and]
  exact and_comm

-- The check accepts what it follows and finds allowed, whatever the targets of `for` loops hold.
-- The modules that it accepts and whose loop targets keep to the rules are the supported ones.
theorem check_exact (m : Module) :
    (m.check = .ok () ↔ m.SupportedOutsideLoopTargets ∧ m.FitsIn maxNesting) ∧
      (m.check = .ok () ∧ m.LoopTargetsSupported ↔ m.Supported ∧ m.FitsIn maxNesting) := by
  refine ⟨check_iff m, ?_⟩
  rw [check_iff, supported_iff]
  exact and_right_comm

-- A `for` loop may bind a reserved name.
theorem check_accepts_reserved_loop_target :
    Module.check [.forLoop (.name "__x" 1) (.name "y" 1) [.pass] []] = .ok () ∧
      ¬ Module.Supported [.forLoop (.name "__x" 1) (.name "y" 1) [.pass] []] := by
  refine ⟨rfl, fun supported => ?_⟩
  have loop := supported _ _ ⟨_, List.mem_singleton_self _, .refl⟩
  have target := loop.2 (.name "__x" 1) (.inr rfl) _ .refl
  exact target ⟨['x'], rfl⟩

end ScriptArena.Script
