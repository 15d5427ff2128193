import ScriptArena.Proofs.Run.Builtins
import ScriptArena.Proofs.Script.Occurrence

namespace ScriptArena

namespace Script

-- The node has no rule where it stands. What it stands for fails with the fault, if the parts that
-- come first do not fail before.
inductive Lacks : Node → Fault → Prop where
  | method (elsewhere : place ≠ .callee) :
      Lacks (place, .attribute value member line) (.noRule "Attribute" (some line))
  | slice (elsewhere : place ≠ .key) :
      Lacks (place, .slice lower upper step line) (.noRule "Slice" (some line))
  | construct : Lacks (place, .unsupported what line) (.noRule what.className (some line))
  | operator (foreign : op.foreign? = some name) :
      Lacks (place, .binary left op right) (.noOperator name)
  | entry (spread : Entry.spread value ∈ entries) :
      Lacks (place, .dict entries line) (.noRule "NoneType" none)
  | target (member : g ∈ generators) (other : ¬ IsTarget g.target) :
      Lacks (place, .listComp element generators) .noTarget

-- The statement itself has no rule, whatever its expressions are.
inductive Stmt.Lacks : Stmt → Fault → Prop where
  | construct : Stmt.Lacks (.unsupported what line) (.noRule what.className (some line))
  | assign (member : target ∈ targets) (other : ¬ IsTarget target) :
      Stmt.Lacks (.assign targets value) .noTarget
  | augAssign (other : ¬ IsPlainTarget target) :
      Stmt.Lacks (.augAssign target op value line) .noTarget
  | operator (foreign : op.foreign? = some name) :
      Stmt.Lacks (.augAssign target op value line) (.noOperator name)
  | loop (other : ¬ IsTarget target) : Stmt.Lacks (.forLoop target iter body orelse) .noTarget

-- All faults of nodes without a rule, within a node, are among the given ones.
def Covered (faults : Fault → Prop) (node : Node) : Prop :=
  ∀ inner, Within node inner → ∀ fault, Lacks inner fault → faults fault

def StmtCovered (faults : Fault → Prop) (node : Around × Stmt) : Prop :=
  ∀ inner, StmtWithin node inner → (∀ fault, inner.2.Lacks fault → faults fault) ∧
    ∀ e, (e ∈ inner.2.parts ∨ inner.2.loopTarget? = some e) → Covered faults (.operand, e)

variable {faults : Fault → Prop} {place : Place} {around : Around}

theorem Covered.lacks {node : Node} (covered : Covered faults node) {fault : Fault}
    (lacks : Lacks node fault) : faults fault :=
  covered node .refl fault lacks

theorem Covered.part {node part : Node} (covered : Covered faults node)
    (member : part ∈ node.2.parts) : Covered faults part :=
  fun inner within => covered inner (.head member within)

-- Where a node stands matters for methods and slices only.
theorem Covered.operand {e : Expr} (covered : Covered faults (place, e))
    (uncalled : ∀ value member line, e = .attribute value member line → place ≠ .callee)
    (unbracketed : ∀ lower upper step line, e = .slice lower upper step line → place ≠ .key) :
    Covered faults (.operand, e) := by
  intro inner within fault lacks
  rcases within.cases_head with rfl | ⟨part, member, rest⟩
  · apply covered.lacks
    cases lacks with
    | method => exact .method (uncalled _ _ _ rfl)
    | slice => exact .slice (unbracketed _ _ _ _ rfl)
    | construct => exact .construct
    | operator foreign => exact .operator foreign
    | entry spread => exact .entry spread
    | target member other => exact .target member other
  · exact covered.part member inner rest fault lacks

theorem StmtCovered.lacks {s : Stmt} (covered : StmtCovered faults (around, s)) {fault : Fault}
    (lacks : s.Lacks fault) : faults fault :=
  (covered _ .refl).1 fault lacks

theorem StmtCovered.expr {s : Stmt} (covered : StmtCovered faults (around, s)) {e : Expr}
    (member : e ∈ s.parts) : Covered faults (.operand, e) :=
  (covered _ .refl).2 e (.inl member)

theorem StmtCovered.inner {s : Stmt} (covered : StmtCovered faults (around, s))
    {part : Around × Stmt} (member : part ∈ s.inner around) : StmtCovered faults part :=
  fun inner within => covered inner (.head member within)

theorem stmtCovered_any (node : Around × Stmt) : StmtCovered (fun _ => True) node :=
  fun _ _ => ⟨fun _ _ => trivial, fun _ _ _ _ _ _ => trivial⟩

end Script

open Script

-- What may be met holds no other faults of missing rules than those that may be thrown.
structure Licence.Suits (t : Licence) : Prop where
  evaluates : t.evaluates
  covered : ∀ {node}, t.stmts node → StmtCovered t.faults node
  inner : ∀ {node part}, t.stmts node → part ∈ node.2.inner node.1 → t.stmts part

theorem suits_free : (Licence.free True).Suits :=
  ⟨trivial, fun _ => stmtCovered_any _, fun _ _ => trivial⟩

namespace Run

structure Rules.Known (t : Licence) (r : Rules) : Prop where
  evaluates : t.evaluates
  eval : ∀ scope e, Covered t.faults (.operand, e) → Composed t (r.eval scope e)
  exec : ∀ around scope s, t.scopes scope → t.stmts (around, s) → Composed t (r.exec scope s)

variable {t : Licence}

theorem composed_isTrue (v : Value) : Composed t (isTrue v) := .look _

-- Names are looked up on behalf of nodes only.
theorem composed_lookUp (may : t.evaluates) (scope : Nat) (name : String) :
    Composed t (lookUp scope name) := by
  rw [lookUp_asks]
  exact .guarded (eases_same _) fun barred => absurd may barred

theorem composed_operate {op : Operator} (a b : Value)
    (foreign : ∀ name, op.foreign? = some name → t.faults (.noOperator name)) :
    Composed t (operate op a b) := by
  refine .step (composed_guarded (Guard.eases_binary op a b)) fun _ => ?_
  split
  · rename_i name isForeign
    exact .stop (foreign name isForeign)
  · exact .step (composed_ask _) composed_keep

theorem composed_negated (op : UnaryOperator) (v : Value) :
    Composed t (negated op v) := by
  cases op with
  | not => exact .step (composed_isTrue v) fun _ => .value _
  | negative => exact .step (composed_settle _) composed_own
  | positive | invert => exact composed_settle _

theorem composed_repeatWhile {test : Run Bool} {body : Run Flow}
    (tests : Composed t test) (bodies : Composed t body) :
    Composed t (repeatWhile test body) := by
  refine .loop () ?_ ?_
  · intro _
    exact .step tests fun holds => composed_branch (.value _) (.value _)
  · intro _
    refine .step bodies fun flow => ?_
    split
    · exact .value _
    · exact .value _
    · exact .value _

theorem composed_thenElse (flow : Flow) {orelse : Run Flow}
    (orelses : Composed t orelse) :
    Composed t (thenElse flow orelse) := by
  cases flow with
  | normal | continued => exact orelses
  | broke => exact .value _
  | returned v => exact .value _

section
variable {r : Rules} (known : r.Known t)
include known

theorem known_block (around : Around) {scope : Nat} (may : t.scopes scope) (body : List Stmt)
    (met : ∀ s ∈ body, t.stmts (around, s)) : Composed t (r.block scope body) := by
  induction body with
  | nil => exact .value _
  | cons s rest ih =>
    refine .step (known.exec around scope s may (met s List.mem_cons_self)) fun flow => ?_
    cases flow with
    | normal => exact ih fun s member => met s (List.mem_cons_of_mem _ member)
    | _ => exact .value _

theorem known_callFunction (at_ : Nat) (args : Arguments) :
    Composed t (r.callFunction at_ args) := by
  refine .inspect fun c knows => .step (composed_settle _) fun frame => ?_
  refine .called (.opened known.evaluates fun scope may => ?_)
  refine .step (known_block known _ may c.body knows) fun flow => ?_
  split
  · exact .value _
  · exact .value _

theorem known_call (callee : Callee) (args : Arguments) : Composed t (r.call callee args) := by
  have other : ∀ call : Arguments → Run Value, (∀ args, Composed t (call args)) →
      Composed t (Rules.callOther call args) := by
    intro call calls
    refine composed_branch composed_failed ?_
    exact .step (calls args) fun v => .step .checkTime fun _ => .value v
  cases callee with
  | function i => exact known_callFunction known i args
  | builtin b => exact other _ (composed_builtin b)
  | textMethod m s => exact other _ (composed_textMethod m s)
  | listMethod m i => exact other _ (ListMethod.composed_call m i)
  | dictMethod m i => exact other _ (DictMethod.composed_call m i)
  | other type => exact composed_failure _

theorem known_evalArguments (scope : Nat) (args : List Expr) (keywords : List Keyword)
    (covered : ∀ e ∈ args ++ keywords.map Keyword.value, Covered t.faults (.operand, e)) :
    Composed t (r.evalArguments scope args keywords) := by
  obtain ⟨positional, named⟩ := List.forall_mem_append.mp covered
  refine .step (composed_each args fun e member => known.eval scope e (positional e member)) ?_
  intro vs
  refine .step (composed_fold keywords _ fun given k member => ?_) fun _ => .value _
  have value := known.eval scope k.value (named k.value (List.mem_map_of_mem member))
  cases k with
  | named key e => exact .step value fun _ => .value _
  | spread e => exact .step value fun _ => .value _

theorem known_evalCallee (scope : Nat) (e : Expr) (covered : Covered t.faults (.callee, e)) :
    Composed t (r.evalCallee scope e) := by
  unfold Rules.evalCallee
  split
  · rename_i target member line
    have value : Covered t.faults (.operand, target) := covered.part (by simp [Expr.parts, operands])
    exact .step (known.eval scope target value) fun v => composed_settle _
  · rename_i other
    have value := covered.operand (fun _ _ _ same => absurd same (other _ _ _)) nofun
    exact .step (known.eval scope e value) fun v => .value _

theorem known_evalBound (scope : Nat) (bound : Option Expr)
    (covered : ∀ e ∈ bound.toList, Covered t.faults (.operand, e)) :
    Composed t (r.evalBound scope bound) := by
  cases bound with
  | none => exact .value _
  | some e => exact known.eval scope e (covered e (by simp))

theorem known_evalKey (scope : Nat) (e : Expr) (covered : Covered t.faults (.key, e)) :
    Composed t (r.evalKey scope e) := by
  unfold Rules.evalKey
  split
  · rename_i lower upper step line
    have bound : ∀ bound : Option Expr, (∀ e ∈ bound.toList,
        e ∈ lower.toList ++ upper.toList ++ step.toList) → Composed t (r.evalBound scope bound) :=
      fun bound listed => known_evalBound known scope bound fun e member =>
        covered.part (List.mem_map_of_mem (listed e member))
    refine .step (bound lower fun e member => by simp [member]) fun _ => ?_
    refine .step (bound upper fun e member => by simp [member]) fun _ => ?_
    exact .step (bound step fun e member => by simp [member]) fun _ => .value _
  · rename_i other
    have value := covered.operand nofun fun _ _ _ _ same => absurd same (other _ _ _ _)
    exact .step (known.eval scope e value) fun v => .value _

omit known in
theorem composed_apply (c : Change) : Composed t (change c.apply) := by
  refine .change (fun h => ?_) fun h frames => ?_
  · cases c with
    | listItem | entry => exact ⟨rfl, rfl⟩
    | listItems at_ items =>
      have numbered := h.agrees_ownAll items.toList
      exact ⟨numbered.frames, numbered.closures⟩
  · cases c with
    | listItem | entry => rfl
    | listItems at_ items => simp only [Change.apply, Heap.ownAll_apart, Heap.modifyList]

omit known in
theorem composed_setItem (container : Value) (key : Subscript) (v : Value) :
    Composed t (Rules.setItem container key v) :=
  .step (composed_ask _) composed_apply

omit known in
theorem composed_unpack (v : Value) (expected : Nat) :
    Composed t (Rules.unpack v expected) := by
  refine .step (composed_collect v) fun items => ?_
  exact composed_branch composed_failed (composed_branch composed_failed (.value _))

omit known in
mutual

theorem known_assign (known : r.Known t) {scope : Nat} (may : t.scopes scope) (e : Expr)
    (covered : Covered t.faults (.operand, e)) (target : ¬ IsTarget e → t.faults .noTarget)
    (v : Value) : Composed t (r.assign scope e v) := by
  cases e with
  | name word line =>
    rw [Rules.assign]
    exact .bind may word v
  | tuple items =>
    rw [Rules.assign]
    refine .step (composed_unpack v _) fun vs => known_assignEach known may items ?_ ?_ vs
    · exact fun e member => covered.part (List.mem_map_of_mem member)
    · intro e member other
      exact target fun all => by cases all with | tuple all => exact other (all e member)
  | list items =>
    rw [Rules.assign]
    refine .step (composed_unpack v _) fun vs => known_assignEach known may items ?_ ?_ vs
    · exact fun e member => covered.part (List.mem_map_of_mem member)
    · intro e member other
      exact target fun all => by cases all with | list all => exact other (all e member)
  | subscript container key =>
    rw [Rules.assign]
    have held : Covered t.faults (.operand, container) := covered.part (by simp [Expr.parts])
    have under : Covered t.faults (.key, key) := covered.part (by simp [Expr.parts])
    refine .step (known.eval scope container held) fun c => ?_
    exact .step (known_evalKey known scope key under) fun k => composed_setItem c k v
  | _ =>
    simp only [Rules.assign]
    exact .stop (target nofun)

theorem known_assignEach (known : r.Known t) {scope : Nat} (may : t.scopes scope) (es : List Expr)
    (covered : ∀ e ∈ es, Covered t.faults (.operand, e))
    (targets : ∀ e ∈ es, ¬ IsTarget e → t.faults .noTarget) (vs : List Value) :
    Composed t (r.assignEach scope es vs) := by
  cases es with
  | nil => exact .value _
  | cons e rest =>
    cases vs with
    | nil => exact .value _
    | cons v vs =>
      obtain ⟨first, others⟩ := List.forall_mem_cons.mp covered
      obtain ⟨target, more⟩ := List.forall_mem_cons.mp targets
      rw [Rules.assignEach]
      refine .step (known_assign known may e first target v) fun _ => ?_
      exact known_assignEach known may rest others more vs

end

theorem known_augment {scope : Nat} (may : t.scopes scope) (op : Operator) (v : Value) (e : Expr)
    (covered : Covered t.faults (.operand, e))
    (target : ¬ IsPlainTarget e → t.faults .noTarget)
    (foreign : ∀ name, op.foreign? = some name → t.faults (.noOperator name)) :
    Composed t (r.augment scope op v e) := by
  cases e with
  | name word line =>
    refine .step (composed_lookUp known.evaluates scope word) fun current => ?_
    exact .step (composed_operate current v foreign) fun _ => .bind may word _
  | subscript container key =>
    have held : Covered t.faults (.operand, container) := covered.part (by simp [Expr.parts])
    have under : Covered t.faults (.key, key) := covered.part (by simp [Expr.parts])
    refine .step (known.eval scope container held) fun c => ?_
    refine .step (known_evalKey known scope key under) fun k => ?_
    refine .step (composed_ask _) fun made => .step (composed_keep made) fun current => ?_
    exact .step (composed_operate current v foreign) fun _ => composed_setItem c k _
  | _ => exact .stop (target nofun)

theorem known_evalEntries (scope : Nat) (entries : List Entry)
    (covered : ∀ e ∈ entries.filterMap Entry.key? ++ entries.map Entry.value,
      Covered t.faults (.operand, e))
    (spread : ∀ value, Entry.spread value ∈ entries → t.faults (.noRule "NoneType" none)) (d : Dict) :
    Composed t (r.evalEntries scope entries d) := by
  induction entries generalizing d with
  | nil => exact .value d
  | cons entry rest ih =>
    cases entry with
    | spread value =>
      exact .stop (spread value List.mem_cons_self)
    | pair key value =>
      refine .step (known.eval scope key (covered key (by simp [Entry.key?]))) fun k => ?_
      refine .step (known.eval scope value (covered value (by simp [Entry.value]))) fun v => ?_
      refine .step (composed_settle _) fun k' => ih ?_ ?_ _
      · intro e member
        apply covered e
        simp only [List.filterMap_cons, Entry.key?, List.map_cons, List.cons_append]
        rcases List.mem_append.mp member with isKey | isValue
        · simp [isKey]
        · simp [isValue]
      · exact fun value member => spread value (List.mem_cons_of_mem _ member)

theorem known_evalUntil (scope : Nat) (settled : Bool) (operands : List Expr)
    (covered : ∀ e ∈ operands, Covered t.faults (.operand, e)) (v : Value) :
    Composed t (r.evalUntil scope settled operands v) := by
  induction operands generalizing v with
  | nil => exact .value v
  | cons e rest ih =>
    obtain ⟨first, others⟩ := List.forall_mem_cons.mp covered
    refine .step (known.eval scope e first) fun v => .step (composed_isTrue v) fun holds => ?_
    exact composed_branch (.value v) (ih others v)

theorem known_evalLinks (scope : Nat) (links : List Link)
    (covered : ∀ e ∈ links.map Link.right, Covered t.faults (.operand, e)) (left : Value) :
    Composed t (r.evalLinks scope left links) := by
  induction links generalizing left with
  | nil => exact .value _
  | cons link rest ih =>
    obtain ⟨op, e⟩ := link
    obtain ⟨first, others⟩ := List.forall_mem_cons.mp covered
    refine .step (known.eval scope e first) fun right => .step (composed_ask _) fun holds => ?_
    exact composed_branch (ih others right) (.value _)

theorem known_allTrue (scope : Nat) (conditions : List Expr)
    (covered : ∀ e ∈ conditions, Covered t.faults (.operand, e)) :
    Composed t (r.allTrue scope conditions) := by
  induction conditions with
  | nil => exact .value _
  | cons e rest ih =>
    obtain ⟨first, others⟩ := List.forall_mem_cons.mp covered
    refine .step (known.eval scope e first) fun v => .step (composed_isTrue v) fun holds => ?_
    exact composed_branch (ih others) (.value _)

theorem known_comprehend {scope : Nat} (may : t.scopes scope) (element : Expr) (generators : List Generator)
    (covered : ∀ e ∈ element :: generators.flatMap Generator.parts, Covered t.faults (.operand, e))
    (targets : ∀ g ∈ generators, ¬ IsTarget g.target → t.faults .noTarget) (at_ : Nat) :
    Composed t (r.comprehend scope element at_ generators) := by
  induction generators with
  | nil =>
    refine .step (known.eval scope element (covered element List.mem_cons_self)) fun v => ?_
    refine .step (.change (fun _ => ⟨rfl, rfl⟩) fun _ _ => rfl) fun _ => ?_
    exact composed_guarded (Guard.eases_listSize .comprehension at_)
  | cons g rest ih =>
    obtain ⟨target, iter, conditions, isAsync⟩ := g
    obtain ⟨ownTarget, otherTargets⟩ := List.forall_mem_cons.mp targets
    have part : ∀ e ∈ target :: iter :: conditions, Covered t.faults (.operand, e) := by
      intro e member
      apply covered e
      simp only [List.flatMap_cons, Generator.parts]
      exact List.mem_cons_of_mem _ (List.mem_append_left _ member)
    have inner : ∀ e ∈ element :: rest.flatMap Generator.parts, Covered t.faults (.operand, e) := by
      intro e member
      apply covered e
      rcases List.mem_cons.mp member with rfl | later
      · exact List.mem_cons_self
      · rw [List.flatMap_cons]
        exact List.mem_cons_of_mem _ (List.mem_append_right _ later)
    refine .step (known.eval scope iter (part iter (by simp))) fun source => ?_
    refine composed_foldItems (fun _ v => ?_) source ()
    refine .step (known_assign known may target (part target (by simp)) ownTarget v) fun _ => ?_
    refine .step (known_allTrue known scope conditions fun e member => part e (by simp [member])) ?_
    intro holds
    exact composed_branch (.step (ih inner otherTargets) fun _ => .value _) (.value _)

omit known in
theorem composed_convert (how : Conversion) (v : Value) :
    Composed t (Rules.convert how v) := by
  cases how with
  | plain => exact .value v
  | _ => exact .step (composed_ask _) fun _ => .value _

theorem known_evalField (scope : Nat) (e : Expr) (how : Conversion) (spec : Option Expr)
    (covered : ∀ x ∈ e :: spec.toList, Covered t.faults (.operand, x)) :
    Composed t (r.evalField scope e how spec) := by
  refine .step (known.eval scope e (covered e List.mem_cons_self)) fun v => ?_
  refine .step (composed_guarded (Guard.eases_textSize v)) fun _ => .step (composed_convert how v) fun v => ?_
  have rest : ∀ spec : String, Composed t (do
      guarded fun l _ => Guard.formatSpec l spec
      return Value.str (← ask fun h => v.formatted h spec)) :=
    fun spec => .step (composed_guarded (Guard.eases_formatSpec spec)) fun _ =>
      .step (composed_ask _) fun _ => .value _
  cases spec with
  | none => exact rest ""
  | some e =>
    refine .step (known.eval scope e (covered e (by simp))) fun v => ?_
    exact .step (composed_toText v) rest

theorem known_evalExpr (scope : Nat) (e : Expr) (covered : Covered t.faults (.operand, e)) :
    Composed t (r.evalExpr scope e) := by
  have part : ∀ x, (Place.operand, x) ∈ e.parts → Composed t (r.eval scope x) :=
    fun x member => known.eval scope x (covered.part member)
  have parts : ∀ es, e.parts = operands es → ∀ x ∈ es, Covered t.faults (.operand, x) := by
    intro es same x member
    apply covered.part
    rw [same]
    exact List.mem_map_of_mem member
  cases e with
  | const c => exact .value _
  | name word line => exact composed_lookUp known.evaluates scope word
  | list items =>
    refine .step (composed_each items fun x member => ?_) fun _ => composed_newList _
    exact known.eval scope x (parts items rfl x member)
  | tuple items =>
    refine .step (composed_each items fun x member => ?_) fun _ => composed_own _
    exact known.eval scope x (parts items rfl x member)
  | dict entries line =>
    refine .step (known_evalEntries known scope entries (parts _ rfl) ?_ _) fun _ => composed_newDict _
    exact fun value member => covered.lacks (.entry member)
  | binary left op right =>
    refine .step (part left (by simp [Expr.parts, operands])) fun a => ?_
    refine .step (part right (by simp [Expr.parts, operands])) fun b => composed_operate a b ?_
    exact fun name foreign => covered.lacks (.operator foreign)
  | unary op operand =>
    exact .step (part operand (by simp [Expr.parts, operands])) fun v => composed_negated op v
  | allOf operands => exact known_evalUntil known scope false operands (parts _ rfl) _
  | anyOf operands => exact known_evalUntil known scope true operands (parts _ rfl) _
  | compare left links =>
    refine .step (part left (by simp [Expr.parts, operands])) fun v => ?_
    exact known_evalLinks known scope links (fun x member => parts _ rfl x (by simp [member])) v
  | conditional test body orelse =>
    refine .step (part test (by simp [Expr.parts, operands])) fun v => ?_
    refine .step (composed_isTrue v) fun holds => composed_branch ?_ ?_
    · exact part body (by simp [Expr.parts, operands])
    · exact part orelse (by simp [Expr.parts, operands])
  | call callee args keywords line =>
    have called : Covered t.faults (.callee, callee) := covered.part List.mem_cons_self
    refine .step (known_evalCallee known scope callee called) fun c => ?_
    refine .step (known_evalArguments known scope args keywords ?_) fun given => ?_
    · exact fun x member => covered.part (List.mem_cons_of_mem _ (List.mem_map_of_mem member))
    · exact known_call known c given
  | «attribute» value member line =>
    exact .stop (covered.lacks (.method nofun))
  | subscript container key =>
    have under : Covered t.faults (.key, key) := covered.part (by simp [Expr.parts])
    refine .step (part container (by simp [Expr.parts])) fun c => ?_
    refine .step (known_evalKey known scope key under) fun k => ?_
    exact .step (composed_ask _) composed_keep
  | slice lower upper step line => exact .stop (covered.lacks (.slice nofun))
  | listComp element generators =>
    refine .step (.look _) fun at_ => .step (composed_newList _) fun result => ?_
    refine .opened known.evaluates fun inner may => ?_
    refine .step (known_comprehend known may element generators (parts _ rfl) ?_ at_) fun _ => .value _
    exact fun g member other => covered.lacks (.target member other)
  | template shown =>
    refine .step (composed_each shown fun x member => ?_) fun vs => ?_
    · refine .step (known.eval scope x (parts _ rfl x member)) fun v => ?_
      exact .step (composed_toText v) fun _ => .value _
    · exact .step (composed_joinTexts "" vs) fun _ => .value _
  | field value how spec => exact known_evalField known scope value how spec (parts _ rfl)
  | unsupported what line => exact .stop (covered.lacks .construct)

theorem known_define {scope : Nat} (may : t.scopes scope) (name : String) (params : List String)
    (defaults : List Expr) (body : List Stmt) (line : Nat)
    (covered : ∀ e ∈ defaults, Covered t.faults (.operand, e))
    (inside : ∀ s ∈ body, t.stmts (⟨false, true⟩, s)) :
    Composed t (r.define scope name params defaults body line) := by
  refine .step (composed_each defaults fun e member => known.eval scope e (covered e member)) ?_
  exact fun vs => .define inside may

theorem known_execStmt (suits : t.Suits) (around : Around) (scope : Nat) (s : Stmt)
    (may : t.scopes scope) (met : t.stmts (around, s)) : Composed t (r.execStmt scope s) := by
  have covered := suits.covered met
  have part : ∀ e ∈ s.parts, Composed t (r.eval scope e) :=
    fun e member => known.eval scope e (covered.expr member)
  have block : ∀ around' body, (∀ s' ∈ body, (around', s') ∈ s.inner around) →
      Composed t (r.block scope body) :=
    fun around' body all => known_block known around' may body fun s' member =>
      suits.inner met (all s' member)
  refine .step .tick fun _ => ?_
  cases s with
  | funcDef name params defaults body plain decorated line =>
    refine .step (known_define known may name params defaults body line ?_ ?_) fun _ => .value _
    · exact fun e member => covered.expr member
    · exact fun s member => suits.inner met (List.mem_map_of_mem member)
  | giveBack value line =>
    refine .step (known_evalBound known scope value fun e member => covered.expr member) ?_
    exact fun _ => .value _
  | pass => exact .value _
  | expr e => exact .step (part e (by simp [Stmt.parts])) fun _ => .value _
  | assign targets value =>
    refine .step (part value (by simp [Stmt.parts])) fun v => ?_
    refine .step (composed_forIn targets _ fun _ e member => .step ?_ fun _ => .value _) fun _ => .value _
    refine known_assign known may e (covered.expr (List.mem_append_left _ member)) ?_ v
    exact fun other => covered.lacks (.assign member other)
  | augAssign target op value line =>
    refine .step (part value (by simp [Stmt.parts])) fun v => .step ?_ fun _ => .value _
    refine known_augment known may op v target (covered.expr (by simp [Stmt.parts])) ?_ ?_
    · exact fun other => covered.lacks (.augAssign other)
    · exact fun name foreign => covered.lacks (.operator foreign)
  | branch test body orelse =>
    refine .step (part test (by simp [Stmt.parts])) fun v => ?_
    refine .step (composed_isTrue v) fun holds => composed_branch ?_ ?_
    · exact block around body fun s member => by simp [Stmt.inner, member]
    · exact block around orelse fun s member => by simp [Stmt.inner, member]
  | whileLoop test body orelse =>
    refine .step (composed_repeatWhile (.step (part test (by simp [Stmt.parts])) composed_isTrue) ?_) ?_
    · exact block { around with inLoop := true } body fun s member => by simp [Stmt.inner, member]
    · intro flow
      refine composed_thenElse flow (block around orelse fun s member => ?_)
      simp [Stmt.inner, member]
  | forLoop target iter body orelse =>
    refine .step (part iter (by simp [Stmt.parts])) fun source => ?_
    refine .step (composed_foldItems (fun _ v => ?_) source _) fun flow => ?_
    · have bound : Covered t.faults (.operand, target) := (covered _ .refl).2 target (.inr rfl)
      refine .step (known_assign known may target bound ?_ v) fun _ => ?_
      · exact fun other => covered.lacks (.loop other)
      · refine .step (block { around with inLoop := true } body ?_) fun _ => .value _
        exact fun s member => by simp [Stmt.inner, member]
    · refine composed_thenElse flow (block around orelse fun s member => ?_)
      simp [Stmt.inner, member]
  | leave line => exact .value _
  | next line => exact .value _
  | unsupported what line => exact .stop (covered.lacks .construct)

end

-- However deep nodes and calls may nest.
theorem known_rules (suits : t.Suits) (room : Nat) : (rules room).Known t := by
  induction room with
  | zero => exact ⟨suits.evaluates, fun _ _ _ => .stop trivial, fun _ _ _ _ _ => .stop trivial⟩
  | succ room ih =>
    refine ⟨suits.evaluates, fun scope e covered => ?_, fun around scope s may met => ?_⟩
    · exact .step (.enter suits.evaluates) fun _ => known_evalExpr ih scope e covered
    · exact .step (.enter suits.evaluates) fun _ => known_execStmt ih suits around scope s may met

theorem composed_block (room scope : Nat) (body : List Stmt) :
    Composed (.free True) ((rules room).block scope body) :=
  known_block (known_rules suits_free room) ⟨false, false⟩ trivial body fun _ _ => trivial

theorem composed_callFunction (room at_ : Nat) (args : Arguments) :
    Composed (.free True) ((rules room).callFunction at_ args) :=
  known_callFunction (known_rules suits_free room) at_ args

end Run
end ScriptArena
