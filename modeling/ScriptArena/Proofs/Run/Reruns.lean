import ScriptArena.Proofs.Run.Bindings
import ScriptArena.Proofs.Run.Mirrors

namespace ScriptArena

open Script

namespace Script.Expr

-- The name does not occur in the expression.
def Avoids (name : String) (e : Expr) : Prop :=
  ∀ part, Relation.ReflTransGen (fun whole part : Expr => ∃ place, (place, part) ∈ whole.parts) e part →
    ∀ line, part ≠ .name name line

theorem Avoids.part {name : String} {e part : Expr} {place : Place} (avoids : e.Avoids name)
    (member : (place, part) ∈ e.parts) : part.Avoids name :=
  fun inner within => avoids inner (.head ⟨place, member⟩ within)

theorem avoids_iff (name : String) (e : Expr) :
    e.Avoids name ↔ (∀ line, e ≠ .name name line) ∧ ∀ part ∈ e.parts, part.2.Avoids name := by
  refine (forall_within (fun part : Expr => ∀ line, part ≠ .name name line) e).trans (and_congr_right ?_)
  intro _
  exact ⟨fun all part member => all part.2 ⟨part.1, member⟩, fun all part ⟨place, member⟩ => all _ member⟩

end Script.Expr

-- The variable is not seen from the scope, or not mentioned in the expression.
def Heap.Unaware (a : Option Aside) (h : Heap) (scope : Nat) (e : Expr) : Prop :=
  h.Clear a scope ∨ ∀ p ∈ a, e.Avoids p.name

namespace Heap.Unaware

variable {a : Option Aside} {w w' : Heap} {scope : Nat} {e inner : Expr} {place : Place}

theorem part (unaware : w.Unaware a scope e) (member : (place, inner) ∈ e.parts) : w.Unaware a scope inner :=
  unaware.imp id fun avoids p put => (avoids p put).part member

theorem widens (unaware : w.Unaware a scope e) (widens : w.Widens w') : w'.Unaware a scope e :=
  unaware.imp (·.widens widens) id

theorem aside {p : Aside} (avoids : e.Avoids p.name) : w.Unaware (some p) scope e :=
  .inr (by rintro _ ⟨⟩; exact avoids)

theorem hidden {name : String} {line : Nat} (unaware : w.Unaware a scope (.name name line)) :
    w.Hidden a scope name :=
  unaware.imp id fun avoids p put same => avoids p put _ .refl line (same ▸ rfl)

end Heap.Unaware

namespace Run

structure Rules.Mirrored (a : Option Aside) (l : Limits) (r : Rules) : Prop where
  eval : ∀ w scope e, w.Unaware a scope e →
    Mirrors a w l Eq (r.eval scope e) fun k => (rules k).eval scope e
  exec : ∀ w scope s, w.Clear a scope → Mirrors a w l Eq (r.exec scope s) fun k => (rules k).exec scope s

variable {a : Option Aside} {l : Limits} {w : Heap} {r : Rules}

theorem bindNamed_parent {c : Closure} {named : List (String × Value)} {f frame : Frame}
    (bound : bindNamed c named f = .ok frame) : frame.parent = f.parent := by
  induction named generalizing f with
  | nil =>
    cases bound
    rfl
  | cons pair rest ih =>
    simp only [bindNamed] at bound
    split at bound
    · cases bound
    · split at bound
      · cases bound
      · exact (ih bound).trans Frame.parent_bind

theorem bindDefaults_parent {c : Closure} {params : List (String × Nat)} {f frame : Frame}
    (bound : bindDefaults c params f = .ok frame) : frame.parent = f.parent := by
  induction params generalizing f with
  | nil =>
    cases bound
    rfl
  | cons param rest ih =>
    simp only [bindDefaults] at bound
    split at bound
    · exact ih bound
    · split at bound
      · exact (ih bound).trans Frame.parent_bind
      · cases bound

-- The body of a function starts in a scope within the one where it was defined.
theorem bindParameters_parent {c : Closure} {args : Arguments} {frame : Frame}
    (bound : bindParameters c args = .ok frame) : frame.parent = some c.scope := by
  have few : args.positional.length ≤ c.params.length := by
    by_contra many
    unfold bindParameters at bound
    dsimp only at bound
    rw [if_pos (Nat.lt_of_not_le many)] at bound
    cases bound
  rw [bindParameters_few few] at bound
  cases named : bindNamed c args.named (placed c args) with
  | error e =>
    rw [named] at bound
    cases bound
  | ok f =>
    rw [named] at bound
    rw [bindDefaults_parent bound, bindNamed_parent named, placed, Frame.parent_binds]

section
variable (mirrored : r.Mirrored a l)
include mirrored

theorem mirrored_block {scope : Nat} (clear : w.Clear a scope) (body : List Stmt) :
    Mirrors a w l Eq (r.block scope body) fun k => (rules k).block scope body := by
  induction body with
  | nil => exact mirrors_value _
  | cons s rest ih =>
    refine mirrors_step (mirrored.exec w scope s clear) fun flow => ?_
    cases flow with
    | normal => exact ih
    | _ => exact mirrors_value _

-- A function looks outwards from where it was defined, and not from where it is called.
theorem mirrored_callFunction (at_ : Nat) (args : Arguments) :
    Mirrors a w l Eq (r.callFunction at_ args) fun k => (rules k).callFunction at_ args := by
  refine mirrors_inspect fun w' c _ clear => mirrors_settled fun frame bound => ?_
  refine mirrors_step mirrors_checkDepth fun _ => mirrors_deeper (mirrors_opened ?_)
  intro w'' scope grown opened
  have inner : w''.Clear a scope := by
    refine opened fun q up => ?_
    rw [bindParameters_parent bound, Option.some.injEq] at up
    exact up ▸ clear
  refine mirrors_step (mirrored_block mirrored inner c.body) fun flow => ?_
  cases flow with
  | _ => exact mirrors_value _

theorem mirrored_call (callee : Callee) (args : Arguments) :
    Mirrors a w l Eq (r.call callee args) fun k => (rules k).call callee args := by
  have other : ∀ call : Arguments → Run Value, (∀ args, Composed plainly (call args)) →
      Mirrors a w l Eq (Rules.callOther call args) fun _ => Rules.callOther call args := by
    intro call calls
    refine mirrors_composed (composed_branch composed_failed ?_)
    exact .step (calls args) fun v => .step .checkTime fun _ => .value v
  cases callee with
  | function i => exact mirrored_callFunction mirrored i args
  | builtin b => exact other _ (composed_builtin b)
  | textMethod m s => exact other _ (composed_textMethod m s)
  | listMethod m i => exact other _ (ListMethod.composed_call m i)
  | dictMethod m i => exact other _ (DictMethod.composed_call m i)
  | other type => exact mirrors_stop _

theorem mirrored_evalArguments {scope : Nat} (args : List Expr) (keywords : List Keyword)
    (unaware : ∀ e ∈ args ++ keywords.map Keyword.value, w.Unaware a scope e) :
    Mirrors a w l Eq (r.evalArguments scope args keywords) fun k =>
      (rules k).evalArguments scope args keywords := by
  rcases List.forall_mem_append.mp unaware with ⟨positional, named⟩
  refine mirrors_step (mirrors_each args fun e member => mirrored.eval w scope e (positional e member)) ?_
  intro vs
  refine mirrors_step (mirrors_fold keywords _ fun given k member => ?_) fun _ => mirrors_value _
  have value := mirrored.eval w scope k.value (named k.value (List.mem_map_of_mem member))
  cases k with
  | named key e => exact mirrors_step value fun _ => mirrors_value _
  | spread e => exact mirrors_step value fun _ => mirrors_value _

theorem mirrored_evalCallee {scope : Nat} {e : Expr} (unaware : w.Unaware a scope e) :
    Mirrors a w l Eq (r.evalCallee scope e) fun k => (rules k).evalCallee scope e := by
  cases e with
  | «attribute» target member line =>
    have value : w.Unaware a scope target := unaware.part (by simp [Expr.parts, operands]; rfl)
    exact mirrors_step (mirrored.eval w scope target value) fun v => mirrors_settle _
  | _ => exact mirrors_step (mirrored.eval w scope _ unaware) fun v => mirrors_value _

theorem mirrored_evalBound {scope : Nat} (bound : Option Expr)
    (unaware : ∀ e ∈ bound.toList, w.Unaware a scope e) :
    Mirrors a w l Eq (r.evalBound scope bound) fun k => (rules k).evalBound scope bound := by
  cases bound with
  | none => exact mirrors_value _
  | some e => exact mirrored.eval w scope e (unaware e (by simp))

theorem mirrored_evalKey {scope : Nat} {e : Expr} (unaware : w.Unaware a scope e) :
    Mirrors a w l Eq (r.evalKey scope e) fun k => (rules k).evalKey scope e := by
  cases e with
  | slice lower upper step line =>
    have bound : ∀ bound : Option Expr, (∀ e ∈ bound.toList,
        e ∈ lower.toList ++ upper.toList ++ step.toList) →
          Mirrors a w l Eq (r.evalBound scope bound) fun k => (rules k).evalBound scope bound :=
      fun bound listed => mirrored_evalBound mirrored bound fun e member =>
        unaware.part (List.mem_map_of_mem (listed e member))
    refine mirrors_step (bound lower fun e member => by simp [member]) fun _ => ?_
    refine mirrors_step (bound upper fun e member => by simp [member]) fun _ => ?_
    exact mirrors_step (bound step fun e member => by simp [member]) fun _ => mirrors_value _
  | _ => exact mirrors_step (mirrored.eval w scope _ unaware) fun v => mirrors_value _

omit mirrored in
theorem mirrors_isTrue (v : Value) : Mirrors a w l Eq (isTrue v) fun _ => isTrue v :=
  mirrors_composed (composed_isTrue v)

omit mirrored in
mutual

theorem mirrored_assign (mirrored : r.Mirrored a l) {scope : Nat} (e : Expr)
    (unaware : w.Unaware a scope e) (v : Value) :
    Mirrors a w l Eq (r.assign scope e v) fun k => (rules k).assign scope e v := by
  cases e with
  | name word line =>
    simp only [Rules.assign]
    exact mirrors_bindName unaware.hidden v
  | tuple items =>
    simp only [Rules.assign]
    refine mirrors_step (mirrors_composed (composed_unpack v _)) fun vs => ?_
    exact mirrored_assignEach mirrored items (fun e member => unaware.part (List.mem_map_of_mem member)) vs
  | list items =>
    simp only [Rules.assign]
    refine mirrors_step (mirrors_composed (composed_unpack v _)) fun vs => ?_
    exact mirrored_assignEach mirrored items (fun e member => unaware.part (List.mem_map_of_mem member)) vs
  | subscript container key =>
    simp only [Rules.assign]
    have held : w.Unaware a scope container := unaware.part List.mem_cons_self
    have under : w.Unaware a scope key := unaware.part (List.mem_cons_of_mem _ List.mem_cons_self)
    refine mirrors_step (mirrored.eval w scope container held) fun c => ?_
    refine mirrors_step (mirrored_evalKey mirrored under) fun k => ?_
    exact mirrors_composed (composed_setItem c k v)
  | _ =>
    simp only [Rules.assign]
    exact mirrors_stop _

theorem mirrored_assignEach (mirrored : r.Mirrored a l) {scope : Nat} (es : List Expr)
    (unaware : ∀ e ∈ es, w.Unaware a scope e) (vs : List Value) :
    Mirrors a w l Eq (r.assignEach scope es vs) fun k => (rules k).assignEach scope es vs := by
  cases es with
  | nil =>
    simp only [Rules.assignEach]
    exact mirrors_value _
  | cons e rest =>
    cases vs with
    | nil =>
      simp only [Rules.assignEach]
      exact mirrors_value _
    | cons v vs =>
      simp only [Rules.assignEach]
      rcases List.forall_mem_cons.mp unaware with ⟨first, others⟩
      refine mirrors_step (mirrored_assign mirrored e first v) fun _ => ?_
      exact mirrored_assignEach mirrored rest others vs

end

theorem mirrored_augment {scope : Nat} (op : Operator) (v : Value) {e : Expr}
    (unaware : w.Unaware a scope e) :
    Mirrors a w l Eq (r.augment scope op v e) fun k => (rules k).augment scope op v e := by
  have operates : ∀ a' b, Mirrors a w l Eq (operate op a' b) fun _ => operate op a' b :=
    fun a' b => mirrors_composed (composed_operate a' b fun _ _ => trivial)
  cases e with
  | name word line =>
    refine mirrors_step (mirrors_lookUp unaware.hidden) fun current => ?_
    exact mirrors_step (operates current v) fun _ => mirrors_bindName unaware.hidden _
  | subscript container key =>
    have held : w.Unaware a scope container := unaware.part List.mem_cons_self
    have under : w.Unaware a scope key := unaware.part (List.mem_cons_of_mem _ List.mem_cons_self)
    refine mirrors_step (mirrored.eval w scope container held) fun c => ?_
    refine mirrors_step (mirrored_evalKey mirrored under) fun k => ?_
    refine mirrors_step (mirrors_ask _) fun made => ?_
    refine mirrors_step (mirrors_composed (composed_keep made)) fun current => ?_
    exact mirrors_step (operates current v) fun _ => mirrors_composed (composed_setItem c k _)
  | _ => exact mirrors_stop _

theorem mirrored_evalEntries {scope : Nat} (entries : List Entry)
    (unaware : ∀ e ∈ entries.filterMap Entry.key? ++ entries.map Entry.value, w.Unaware a scope e)
    (d : Dict) :
    Mirrors a w l Eq (r.evalEntries scope entries d) fun k => (rules k).evalEntries scope entries d := by
  induction entries generalizing d with
  | nil => exact mirrors_value d
  | cons entry rest ih =>
    cases entry with
    | spread value => exact mirrors_stop _
    | pair key value =>
      refine mirrors_step (mirrored.eval w scope key (unaware key (by simp [Entry.key?]))) fun k => ?_
      refine mirrors_step (mirrored.eval w scope value (unaware value (by simp [Entry.value]))) fun v => ?_
      refine mirrors_step (mirrors_settle _) fun k' => ih (fun e member => unaware e ?_) _
      simp only [List.filterMap_cons, Entry.key?, List.map_cons, List.cons_append]
      rcases List.mem_append.mp member with isKey | isValue
      · simp [isKey]
      · simp [isValue]

theorem mirrored_evalUntil {scope : Nat} (settled : Bool) (operands : List Expr)
    (unaware : ∀ e ∈ operands, w.Unaware a scope e) (v : Value) :
    Mirrors a w l Eq (r.evalUntil scope settled operands v) fun k =>
      (rules k).evalUntil scope settled operands v := by
  induction operands generalizing v with
  | nil => exact mirrors_value v
  | cons e rest ih =>
    rcases List.forall_mem_cons.mp unaware with ⟨first, others⟩
    refine mirrors_step (mirrored.eval w scope e first) fun v => ?_
    refine mirrors_step (mirrors_isTrue v) fun holds => ?_
    exact mirrors_branch (mirrors_value v) (ih others v)

theorem mirrored_evalLinks {scope : Nat} (links : List Link)
    (unaware : ∀ e ∈ links.map Link.right, w.Unaware a scope e) (left : Value) :
    Mirrors a w l Eq (r.evalLinks scope left links) fun k => (rules k).evalLinks scope left links := by
  induction links generalizing left with
  | nil => exact mirrors_value _
  | cons link rest ih =>
    obtain ⟨op, e⟩ := link
    rcases List.forall_mem_cons.mp unaware with ⟨first, others⟩
    refine mirrors_step (mirrored.eval w scope e first) fun right => ?_
    refine mirrors_step (mirrors_ask _) fun holds => ?_
    exact mirrors_branch (ih others right) (mirrors_value _)

theorem mirrored_allTrue {scope : Nat} (conditions : List Expr)
    (unaware : ∀ e ∈ conditions, w.Unaware a scope e) :
    Mirrors a w l Eq (r.allTrue scope conditions) fun k => (rules k).allTrue scope conditions := by
  induction conditions with
  | nil => exact mirrors_value _
  | cons e rest ih =>
    rcases List.forall_mem_cons.mp unaware with ⟨first, others⟩
    refine mirrors_step (mirrored.eval w scope e first) fun v => ?_
    refine mirrors_step (mirrors_isTrue v) fun holds => ?_
    exact mirrors_branch (ih others) (mirrors_value _)

theorem mirrored_comprehend {scope : Nat} (element : Expr) (at_ : Nat) (generators : List Generator)
    (unaware : ∀ e ∈ element :: generators.flatMap Generator.parts, w.Unaware a scope e) :
    Mirrors a w l Eq (r.comprehend scope element at_ generators) fun k =>
      (rules k).comprehend scope element at_ generators := by
  induction generators with
  | nil =>
    refine mirrors_step (mirrored.eval w scope element (unaware element List.mem_cons_self)) fun v => ?_
    refine mirrors_composed (.step (.change (fun _ => ⟨rfl, rfl⟩) fun _ _ => rfl) fun _ => ?_)
    exact composed_guarded (Guard.eases_listSize .comprehension at_)
  | cons g rest ih =>
    obtain ⟨target, iter, conditions, isAsync⟩ := g
    rcases List.forall_mem_cons.mp unaware with ⟨ofElement, ofOthers⟩
    rw [List.flatMap_cons] at ofOthers
    rcases List.forall_mem_append.mp ofOthers with ⟨part, later⟩
    have inner := ih (List.forall_mem_cons.mpr ⟨ofElement, later⟩)
    refine mirrors_step (mirrored.eval w scope iter (part iter (by simp [Generator.parts]))) fun source => ?_
    refine mirrors_foldItems (fun _ _ v same => ?_) source rfl
    refine mirrors_step (mirrored_assign mirrored target (part target (by simp [Generator.parts])) v) ?_
    intro _
    refine mirrors_step (mirrored_allTrue mirrored conditions fun e member => ?_) fun holds => ?_
    · exact part e (by simp [Generator.parts, member])
    · exact mirrors_branch (mirrors_step inner fun _ => mirrors_pure (.yield rfl)) (mirrors_pure (.yield rfl))

theorem mirrored_evalField {scope : Nat} {e : Expr} (how : Conversion) {spec : Option Expr}
    (unaware : ∀ x ∈ e :: spec.toList, w.Unaware a scope x) :
    Mirrors a w l Eq (r.evalField scope e how spec) fun k => (rules k).evalField scope e how spec := by
  refine mirrors_step (mirrored.eval w scope e (unaware e List.mem_cons_self)) fun v => ?_
  refine mirrors_step (mirrors_composed (composed_guarded (Guard.eases_textSize v))) fun _ => ?_
  refine mirrors_step (mirrors_composed (composed_convert how v)) fun v => ?_
  have rest : ∀ spec : String, Composed plainly (do
      guarded fun l _ => Guard.formatSpec l spec
      return Value.str (← ask fun h => v.formatted h spec)) :=
    fun spec => .step (composed_guarded (Guard.eases_formatSpec spec)) fun _ =>
      .step (composed_ask _) fun _ => .value _
  cases spec with
  | none => exact mirrors_composed (rest "")
  | some e =>
    refine mirrors_step (mirrored.eval w scope e (unaware e (by simp))) fun v => ?_
    exact mirrors_composed (.step (composed_toText v) rest)

theorem mirrored_evalExpr {scope : Nat} (e : Expr) (unaware : w.Unaware a scope e) :
    Mirrors a w l Eq (r.evalExpr scope e) fun k => (rules k).evalExpr scope e := by
  have part : ∀ place x, (place, x) ∈ e.parts →
      Mirrors a w l Eq (r.eval scope x) fun k => (rules k).eval scope x :=
    fun place x member => mirrored.eval w scope x (unaware.part member)
  have parts : ∀ es, e.parts = operands es → ∀ x ∈ es, w.Unaware a scope x := by
    intro es same x member
    have listed : (Place.operand, x) ∈ e.parts := by
      rw [same]
      exact List.mem_map_of_mem member
    exact unaware.part listed
  have each : ∀ es, e.parts = operands es → Mirrors a w l Eq (es.mapM (r.eval scope)) fun k =>
      es.mapM ((rules k).eval scope) :=
    fun es same => mirrors_each es fun x member => mirrored.eval w scope x (parts es same x member)
  cases e with
  | const c => exact mirrors_value _
  | name word line => exact mirrors_lookUp unaware.hidden
  | list items => exact mirrors_step (each items rfl) fun _ => mirrors_composed (composed_newList _)
  | tuple items => exact mirrors_step (each items rfl) fun _ => mirrors_own _
  | dict entries line =>
    refine mirrors_step (mirrored_evalEntries mirrored entries (parts _ rfl) _) fun _ => ?_
    exact mirrors_composed (composed_newDict _)
  | binary left op right =>
    refine mirrors_step (part .operand left (by simp [Expr.parts, operands])) fun u => ?_
    refine mirrors_step (part .operand right (by simp [Expr.parts, operands])) fun v => ?_
    exact mirrors_composed (composed_operate u v fun _ _ => trivial)
  | unary op operand =>
    refine mirrors_step (part .operand operand (by simp [Expr.parts, operands])) fun v => ?_
    exact mirrors_composed (composed_negated op v)
  | allOf operands => exact mirrored_evalUntil mirrored false operands (parts _ rfl) _
  | anyOf operands => exact mirrored_evalUntil mirrored true operands (parts _ rfl) _
  | compare left links =>
    refine mirrors_step (part .operand left (by simp [Expr.parts, operands])) fun v => ?_
    exact mirrored_evalLinks mirrored links (fun x member => parts _ rfl x (by simp [member])) v
  | conditional test body orelse =>
    refine mirrors_step (part .operand test (by simp [Expr.parts, operands])) fun v => ?_
    refine mirrors_step (mirrors_isTrue v) fun holds => mirrors_branch ?_ ?_
    · exact part .operand body (by simp [Expr.parts, operands])
    · exact part .operand orelse (by simp [Expr.parts, operands])
  | call callee args keywords line =>
    have called : w.Unaware a scope callee := unaware.part List.mem_cons_self
    refine mirrors_step (mirrored_evalCallee mirrored called) fun c => ?_
    refine mirrors_step (mirrored_evalArguments mirrored args keywords ?_) fun given => ?_
    · exact fun x member => unaware.part (List.mem_cons_of_mem _ (List.mem_map_of_mem member))
    · exact mirrored_call mirrored c given
  | «attribute» value member line => exact mirrors_stop _
  | subscript container key =>
    have under : w.Unaware a scope key := unaware.part (List.mem_cons_of_mem _ List.mem_cons_self)
    refine mirrors_step (part .operand container (by simp [Expr.parts])) fun c => ?_
    refine mirrors_step (mirrored_evalKey mirrored under) fun k => ?_
    exact mirrors_composed (.step (composed_ask _) composed_keep)
  | slice lower upper step line => exact mirrors_stop _
  | listComp element generators =>
    refine mirrors_step (mirrors_look _) fun at_ => ?_
    refine mirrors_step (mirrors_composed (composed_newList _)) fun result => ?_
    refine mirrors_opened fun w' inner grown opened => ?_
    refine mirrors_step (mirrored_comprehend mirrored element at_ generators fun x member => ?_)
      fun _ => mirrors_value _
    -- The comprehension has a scope within the one that it stands in.
    refine (parts _ rfl x member).imp (fun clear => opened fun q up => ?_) id
    cases up
    exact clear
  | template shown =>
    refine mirrors_step (mirrors_each shown fun x member => ?_) fun vs => ?_
    · refine mirrors_step (mirrored.eval w scope x (parts _ rfl x member)) fun v => ?_
      exact mirrors_composed (.step (composed_toText v) fun _ => .value _)
    · exact mirrors_composed (.step (composed_joinTexts "" vs) fun _ => .value _)
  | field value how spec => exact mirrored_evalField mirrored how (parts _ rfl)
  | unsupported what line => exact mirrors_stop _

theorem mirrored_define {scope : Nat} (clear : w.Clear a scope) (name : String) (params : List String)
    (defaults : List Expr) (body : List Stmt) (line : Nat) :
    Mirrors a w l Eq (r.define scope name params defaults body line) fun k =>
      (rules k).define scope name params defaults body line := by
  refine mirrors_step (mirrors_each defaults fun e _ => mirrored.eval w scope e (.inl clear)) fun vs => ?_
  exact mirrors_define (c := ⟨name, params, vs, body, line, scope⟩) clear

omit mirrored in
theorem mirrors_thenElse (flow : Flow) {orelse : Run Flow} {orelse' : Nat → Run Flow}
    (orelses : Mirrors a w l Eq orelse orelse') :
    Mirrors a w l Eq (thenElse flow orelse) fun k => thenElse flow (orelse' k) := by
  cases flow with
  | normal | continued => exact orelses
  | broke => exact mirrors_value _
  | returned v => exact mirrors_value _

omit mirrored in
theorem mirrors_repeatWhile {test : Run Bool} {body : Run Flow} {test' : Nat → Run Bool}
    {body' : Nat → Run Flow} (tests : Mirrors a w l Eq test test') (bodies : Mirrors a w l Eq body body') :
    Mirrors a w l Eq (repeatWhile test body) fun k => repeatWhile (test' k) (body' k) := by
  refine mirrors_loop (S := Eq) (T := Eq) (fun _ _ _ => ?_) (fun _ _ _ => ?_) rfl
  · refine mirrors_step tests fun holds => mirrors_branch ?_ ?_
    · exact mirrors_pure (.inl rfl)
    · exact mirrors_pure (.inr rfl)
  · refine mirrors_step bodies fun flow => ?_
    cases flow with
    | normal | continued => exact mirrors_pure (.inl rfl)
    | broke => exact mirrors_pure (.inr rfl)
    | returned v => exact mirrors_pure (.inr rfl)

theorem mirrored_execStmt {scope : Nat} (clear : w.Clear a scope) (s : Stmt) :
    Mirrors a w l Eq (r.execStmt scope s) fun k => (rules k).execStmt scope s := by
  have value : ∀ e, Mirrors a w l Eq (r.eval scope e) fun k => (rules k).eval scope e :=
    fun e => mirrored.eval w scope e (.inl clear)
  have block := mirrored_block mirrored clear
  refine mirrors_step mirrors_tick fun _ => ?_
  cases s with
  | funcDef name params defaults body plain decorated line =>
    refine mirrors_step (mirrored_define mirrored clear name params defaults body line) fun _ => ?_
    exact mirrors_value _
  | giveBack given line =>
    refine mirrors_step (mirrored_evalBound mirrored given fun _ _ => .inl clear) fun _ => ?_
    exact mirrors_value _
  | pass => exact mirrors_value _
  | expr e => exact mirrors_step (value e) fun _ => mirrors_value _
  | assign targets e =>
    refine mirrors_step (value e) fun v => mirrors_step (mirrors_forIn targets _ fun _ e _ => ?_) fun _ => ?_
    · exact mirrors_step (mirrored_assign mirrored e (.inl clear) v) fun _ => mirrors_value _
    · exact mirrors_value _
  | augAssign target op e line =>
    refine mirrors_step (value e) fun v => mirrors_step ?_ fun _ => mirrors_value _
    exact mirrored_augment mirrored op v (.inl clear)
  | branch test body orelse =>
    refine mirrors_step (value test) fun v => mirrors_step (mirrors_isTrue v) fun holds => ?_
    exact mirrors_branch (block body) (block orelse)
  | whileLoop test body orelse =>
    refine mirrors_step (mirrors_repeatWhile (mirrors_step (value test) mirrors_isTrue) (block body)) ?_
    exact fun flow => mirrors_thenElse flow (block orelse)
  | forLoop target iter body orelse =>
    refine mirrors_step (value iter) fun source => ?_
    refine mirrors_step (mirrors_foldItems (fun _ _ v same => ?_) source rfl) fun flow => ?_
    · refine mirrors_step (mirrored_assign mirrored target (.inl clear) v) fun _ => ?_
      refine mirrors_step (block body) fun flow => mirrors_pure ?_
      cases flow <;> constructor <;> rfl
    · exact mirrors_thenElse flow (block orelse)
  | leave line => exact mirrors_value _
  | next line => exact mirrors_value _
  | unsupported what line => exact mirrors_stop _

end

-- However much room there is for the first run.
theorem mirrored_rules (room : Nat) : (rules room).Mirrored a l := by
  have none : ∀ l m, ¬ Calm ((throw .tooDeep : Run Value) l m) := fun _ _ calm => calm trivial
  have none' : ∀ l m, ¬ Calm ((throw .tooDeep : Run Flow) l m) := fun _ _ calm => calm trivial
  induction room with
  | zero => exact ⟨fun _ _ _ _ => mirrors_ceiling trivial, fun _ _ _ _ => mirrors_ceiling trivial⟩
  | succ room ih =>
    refine ⟨fun w scope e unaware => ?_, fun w scope s clear => ?_⟩
    · refine mirrors_further none (mirrors_step mirrors_enter fun _ => ?_)
      exact mirrored_evalExpr ih e unaware
    · refine mirrors_further none' (mirrors_step mirrors_enter fun _ => ?_)
      exact mirrored_execStmt ih clear s

theorem Mirrors.rooted {α β : Type} {R : α → β → Prop} {x : Run α} {y : Nat → Run β} {m : Machine}
    (mirrors : Mirrors none m.heap l R x y) (rooted : m.heap.Rooted) : (last (x l m)).heap.Rooted :=
  (mirrors m m (.refl _) ⟨nofun, rooted⟩ ⟨rfl, rfl, rfl⟩).1.sits

-- Evaluation keeps the scopes of functions, and all those around them, in the table.
theorem rooted_eval (room scope : Nat) (e : Expr) {m : Machine} (rooted : m.heap.Rooted) :
    (last ((rules room).eval scope e l m)).heap.Rooted :=
  ((mirrored_rules room).eval m.heap scope e (.inr (by rintro _ ⟨⟩))).rooted rooted

theorem rooted_exec (room : Nat) {scope : Nat} (s : Stmt) {m : Machine} (rooted : m.heap.Rooted)
    (clear : m.heap.Clear none scope) : (last ((rules room).exec scope s l m)).heap.Rooted :=
  ((mirrored_rules room).exec m.heap scope s clear).rooted rooted

theorem clear_initial : Heap.initial.Clear none 0 := by
  have top : ∀ q, (Heap.initial.frameAt 0).parent ≠ some q := nofun
  exact .mk Nat.zero_lt_one nofun (fun q up => absurd up (top q)) fun q up => absurd up (top q)

theorem rooted_initial : Heap.initial.Rooted := fun _ => clear_initial

end Run

namespace Session
open Run

theorem rooted_start {p : Program} {l : Limits} {s : Session} (ran : start p l = .ok s) :
    s.machine.heap.Rooted := by
  obtain ⟨-, flow, ended⟩ := start_ran ran
  have body : Mirrors none ({} : Machine).heap l Eq (runModule p) fun k => (Run.rules k).block 0 p.body :=
    mirrored_block (mirrored_rules maxRunDepth) clear_initial p.body
  have kept := body.rooted rooted_initial
  rw [ended] at kept
  exact kept

theorem rooted_call {s : Session} (rooted : s.machine.heap.Rooted) (at_ : Nat) (args : List Value) :
    (s.call at_ args).2.machine.heap.Rooted := by
  have called : Mirrors none s.machine.heap s.limits Eq (callBody at_ args) fun k =>
      checkTime >>= fun _ => flushed ((Run.rules k).callFunction at_ ⟨args, []⟩) :=
    mirrors_step mirrors_checkTime fun _ =>
      mirrors_flushed (mirrored_callFunction (mirrored_rules maxRunDepth) at_ ⟨args, []⟩)
  have kept := called.rooted rooted
  unfold Session.call
  split
  · rename_i ended
    rw [ended] at kept
    exact kept
  · rename_i ended
    rw [ended] at kept
    exact kept

-- However a session is used, no function stands in a scope that is not there.
theorem becomes_rooted {p : Program} {l : Limits} {s s' : Session} (ran : start p l = .ok s)
    (becomes : Becomes s s') : s'.machine.heap.Rooted := by
  induction becomes with
  | same => exact rooted_start ran
  | called prior at_ args ih => exact rooted_call ih at_ args
  | fed prior kept ih => exact ih.widens kept.closures (Heap.widens_same kept.frames)

end Session
end ScriptArena
