import ScriptArena.Proofs.Run.Soundness
import ScriptArena.Proofs.Run.Steps
import ScriptArena.Proofs.Script.Acceptance

namespace ScriptArena

namespace Script

inductive Signal where
  | leave | next | giveBack
deriving DecidableEq

inductive Stmt.IsLoop : Stmt → List Stmt → List Stmt → Prop where
  | whileLoop : Stmt.IsLoop (.whileLoop test body orelse) body orelse
  | forLoop : Stmt.IsLoop (.forLoop target iter body orelse) body orelse

-- The signal stands open in the statement. A definition sends none, whatever its body is.
inductive Stmt.Sends : Stmt → Signal → Prop where
  | leave : Stmt.Sends (.leave line) .leave
  | next : Stmt.Sends (.next line) .next
  | giveBack : Stmt.Sends (.giveBack value line) .giveBack
  | branch (member : s ∈ body ++ orelse) (sends : Stmt.Sends s signal) :
      Stmt.Sends (.branch test body orelse) signal
  | loopBody (loop : whole.IsLoop body orelse) (member : s ∈ body) (sends : Stmt.Sends s .giveBack) :
      Stmt.Sends whole .giveBack
  | loopElse (loop : whole.IsLoop body orelse) (member : s ∈ orelse) (sends : Stmt.Sends s signal) :
      Stmt.Sends whole signal

-- There is something around that the signal can mean.
def Signal.Placed (around : Around) : Signal → Prop
  | .leave | .next => around.inLoop = true
  | .giveBack => around.inFunction = true

theorem inner_loop {whole : Stmt} {body orelse : List Stmt} (loop : whole.IsLoop body orelse)
    (around : Around) : whole.inner around =
      body.map ({ around with inLoop := true }, ·) ++ orelse.map (around, ·) := by
  cases loop with
  | whileLoop => rfl
  | forLoop => rfl

theorem sends_placed {s : Stmt} {signal : Signal} (sends : s.Sends signal) {around : Around}
    (supported : StmtSupported (around, s)) : signal.Placed around := by
  induction sends generalizing around with
  | leave | next | giveBack => exact (supported _ .refl).1
  | branch member _ ih =>
    exact ih (((stmtSupported_iff _ _).mp supported).2 (around, _) (List.mem_map_of_mem member))
  | loopBody loop member _ ih =>
    have parts := ((stmtSupported_iff _ _).mp supported).2
    rw [inner_loop loop] at parts
    have placed := ih (parts _ (List.mem_append_left _ (List.mem_map_of_mem member)))
    exact placed
  | loopElse loop member _ ih =>
    have parts := ((stmtSupported_iff _ _).mp supported).2
    rw [inner_loop loop] at parts
    exact ih (parts _ (List.mem_append_right _ (List.mem_map_of_mem member)))

theorem has_supported {p : Program} {around : Around} {s : Stmt} (has : p.body.Has around s) :
    StmtSupported (around, s) := by
  obtain ⟨top, member, within⟩ := has
  obtain ⟨supported, -⟩ := (check_iff p.body).mp p.supported
  intro inner deeper
  exact supported inner.1 inner.2 ⟨top, member, within.trans deeper⟩

end Script

open Script (Signal Stmt)

def Flow.signal? : Flow → Option Signal
  | .normal => none
  | .broke => some .leave
  | .continued => some .next
  | .returned _ => some .giveBack

-- The signal with which the flow ends, if it ends with one, is among the given ones.
def Flow.Within (signals : Signal → Prop) (flow : Flow) : Prop :=
  ∀ signal, flow.signal? = some signal → signals signal

namespace Run

section
variable {α β σ τ : Type}

-- What holds of every result of the computation.
def Yields (x : Run α) (post : α → Prop) : Prop := ∀ l m a m', x l m = .ok a m' → post a

theorem yields_value {a : α} {post : α → Prop} (holds : post a) : Yields (pure a) post := by
  intro l m b m' ran
  cases ran
  exact holds

theorem yields_step {x : Run α} {f : α → Run β} {mid : α → Prop} {post : β → Prop}
    (first : Yields x mid) (rest : ∀ a, mid a → Yields (f a) post) : Yields (x >>= f) post := by
  intro l m b m' ran
  obtain ⟨a, late, ranFirst, ranRest⟩ := bind_ok ran
  exact rest a (first l m a late ranFirst) l late b m' ranRest

theorem yields_any (x : Run α) : Yields x fun _ => True := fun _ _ _ _ _ => trivial

theorem yields_last {x : Run α} {f : α → Run β} {post : β → Prop}
    (rest : ∀ a, Yields (f a) post) : Yields (x >>= f) post :=
  yields_step (yields_any x) fun a _ => rest a

theorem yields_stop {e : Fault} {post : α → Prop} : Yields (throw e) post := fun _ _ _ _ ran => by
  cases ran

-- The states of a loop keep to an invariant, and so do those between its probe and its body.
theorem yields_loop {probe : σ → Run (τ ⊕ α)} {body : τ → Run (σ ⊕ α)} (outer : σ → Prop)
    (inner : τ → Prop) {post : α → Prop}
    (probes : ∀ s, outer s → Yields (probe s) (Sum.elim inner post))
    (bodies : ∀ r, inner r → Yields (body r) (Sum.elim outer post)) {s : σ} (start : outer s) :
    Yields (loop probe body s) post := by
  have turns : ∀ s, outer s → Yields (turn probe body s) (Sum.elim outer post) := by
    intro s holds
    refine yields_step (probes s holds) fun found here => ?_
    cases found with
    | inr a => exact yields_value here
    | inl r => exact yields_last fun _ => yields_last fun _ => bodies r here
  suffices all : ∀ fuel s, outer s → Yields (rounds probe body fuel s) post from
    fun l m => all _ s start l m
  intro fuel
  induction fuel with
  | zero => exact fun s _ => yields_last fun _ => yields_stop
  | succ fuel ih =>
    intro s holds
    refine yields_step (turns s holds) fun next here => ?_
    cases next with
    | inr a => exact yields_value here
    | inl next => exact ih next here

end

variable {signals : Signal → Prop}

theorem within_normal : Flow.normal.Within signals := nofun

-- Of the signals of a body, a loop only lets the one that gives back through.
def Returns (signals : Signal → Prop) (flow : Flow) : Prop :=
  ∀ v, flow = .returned v → signals .giveBack

theorem yields_repeatWhile {test : Run Bool} {body : Run Flow}
    (bodies : Yields body (Returns signals)) : Yields (repeatWhile test body) (Returns signals) := by
  refine yields_loop (fun _ => True) (fun _ => True) ?_ ?_ trivial
  · intro _ _
    refine yields_last fun holds => ?_
    split
    · exact yields_value trivial
    · exact yields_value nofun
  · intro _ _
    refine yields_step bodies fun flow returns => ?_
    split
    · exact yields_value trivial
    · exact yields_value trivial
    · exact yields_value returns

theorem yields_thenElse {flow : Flow} {orelse : Run Flow} (returns : Returns signals flow)
    (elses : Yields orelse (Flow.Within signals)) :
    Yields (thenElse flow orelse) (Flow.Within signals) := by
  cases flow with
  | normal | continued => exact elses
  | broke => exact yields_value within_normal
  | returned v =>
    refine yields_value fun signal same => ?_
    cases same
    exact returns v rfl

theorem yields_foldItems {visit : Flow → Value → Run (ForInStep Flow)} {v : Value}
    (visits : ∀ acc v, Yields (visit acc v) fun step => Returns signals step.value) :
    Yields (foldItems visit v .normal) (Returns signals) := by
  refine yields_last fun c => yields_loop (fun s => Returns signals s.2) (fun _ => True) ?_ ?_
    (nofun : Returns signals .normal)
  · rintro ⟨c, acc⟩ holds
    refine yields_last fun next => ?_
    cases next with
    | none => exact yields_value holds
    | some item => exact yields_last fun _ => yields_value trivial
  · rintro ⟨v, c, acc⟩ -
    refine yields_step (visits acc v) fun step returns => ?_
    cases step with
    | done flow => exact yields_value returns
    | yield flow => exact yields_value returns

theorem returns_round {flow : Flow} (returns : Returns signals flow) :
    Returns signals (Rules.round flow).value := by
  cases flow with
  | normal | continued => exact nofun
  | broke | returned => exact returns

def Rules.Sends (r : Rules) : Prop := ∀ scope s, Yields (r.exec scope s) (Flow.Within s.Sends)

variable {r : Rules}

theorem yields_block (sends : r.Sends) (scope : Nat) (body : List Stmt)
    (all : ∀ s ∈ body, ∀ signal, s.Sends signal → signals signal) :
    Yields (r.block scope body) (Flow.Within signals) := by
  induction body with
  | nil => exact yields_value within_normal
  | cons s rest ih =>
    obtain ⟨first, others⟩ := List.forall_mem_cons.mp all
    refine yields_step (sends scope s) fun flow within => ?_
    cases flow with
    | normal => exact ih others
    | broke | continued | returned =>
      exact yields_value fun signal same => first signal (within signal same)

theorem yields_loopBody (sends : r.Sends) (scope : Nat) {whole : Stmt} {body orelse : List Stmt}
    (loop : whole.IsLoop body orelse) : Yields (r.block scope body) (Returns whole.Sends) := by
  have passed : Yields (r.block scope body) (Flow.Within fun signal => ∃ s ∈ body, s.Sends signal) :=
    yields_block sends scope body fun s member signal sent => ⟨s, member, sent⟩
  rintro l m flow m' ran v rfl
  obtain ⟨s, member, sent⟩ := passed l m _ m' ran .giveBack rfl
  exact .loopBody loop member sent

theorem yields_loopElse (sends : r.Sends) (scope : Nat) {whole : Stmt} {body orelse : List Stmt}
    (loop : whole.IsLoop body orelse) : Yields (r.block scope orelse) (Flow.Within whole.Sends) :=
  yields_block sends scope orelse fun _ member _ sent => .loopElse loop member sent

theorem sends_execStmt (sends : r.Sends) (scope : Nat) (s : Stmt) :
    Yields (r.execStmt scope s) (Flow.Within s.Sends) := by
  refine yields_last fun _ => ?_
  cases s with
  | giveBack value line =>
    refine yields_last fun v => yields_value fun signal same => ?_
    cases same
    exact .giveBack
  | leave line =>
    refine yields_value fun signal same => ?_
    cases same
    exact .leave
  | next line =>
    refine yields_value fun signal same => ?_
    cases same
    exact .next
  | branch test body orelse =>
    refine yields_last fun v => yields_last fun holds => ?_
    split
    · exact yields_block sends scope body fun s member signal sent =>
        .branch (List.mem_append_left _ member) sent
    · exact yields_block sends scope orelse fun s member signal sent =>
        .branch (List.mem_append_right _ member) sent
  | whileLoop test body orelse =>
    have loop : (Stmt.whileLoop test body orelse).IsLoop body orelse := .whileLoop
    refine yields_step (yields_repeatWhile (yields_loopBody sends scope loop)) ?_
    exact fun flow returns => yields_thenElse returns (yields_loopElse sends scope loop)
  | forLoop target iter body orelse =>
    have loop : (Stmt.forLoop target iter body orelse).IsLoop body orelse := .forLoop
    have rounds : Yields (do return Rules.round (← r.block scope body))
        fun step => Returns (Stmt.forLoop target iter body orelse).Sends step.value :=
      yields_step (yields_loopBody sends scope loop) fun flow returns =>
        yields_value (returns_round returns)
    refine yields_last fun source => ?_
    refine yields_step (yields_foldItems fun _ v => yields_last fun _ => rounds) ?_
    exact fun flow returns => yields_thenElse returns (yields_loopElse sends scope loop)
  | funcDef | expr => exact yields_last fun _ => yields_value within_normal
  | assign | augAssign =>
    exact yields_last fun _ => yields_last fun _ => yields_value within_normal
  | pass => exact yields_value within_normal
  | unsupported => exact yields_stop

theorem sends_rules (room : Nat) : (rules room).Sends := by
  induction room with
  | zero => exact fun _ _ => yields_stop
  | succ room ih => exact fun scope s => yields_last fun _ => sends_execStmt ih scope s

namespace Rules

-- The rest of a `while` loop, from a test on, with what follows it once it has ended by itself.
def whileOn (r : Rules) (scope : Nat) (test : Script.Expr) (body orelse : List Stmt) : Run Flow := do
  thenElse (← repeatWhile (do isTrue (← r.eval scope test)) (r.block scope body))
    (r.block scope orelse)

-- The rest of a `for` loop, from the next item on.
def forOn (r : Rules) (scope : Nat) (target : Script.Expr) (body orelse : List Stmt) (c : Cursor) :
    Run Flow := do
  thenElse (← loop nextItem (visitItem fun _ v => do
    r.assign scope target v
    return round (← r.block scope body)) (c, .normal)) (r.block scope orelse)

end Rules

section
variable {t : Licence} {evaluates : Prop}

theorem repeatWhile_eq {test : Run Bool} {body : Run Flow}
    (tests : Composed (.free evaluates) test) (bodies : Composed (.free evaluates) body) :
    repeatWhile test body = (do
      if ← test then
        tick
        enter
        match ← body with
        | .normal | .continued => repeatWhile test body
        | flow => return flow
      else return .normal) := by
  refine (loop_eq (fun _ => paces_step (paces_free tests) fun holds => ?_)
    (fun _ => paces_step (paces_free bodies) fun flow => ?_) ()).trans ?_
  · split <;> exact paces_value _
  · split <;> exact paces_value _
  simp only [turn, bind_assoc]
  refine bind_congr fun holds => ?_
  cases holds with
  | false => simp
  | true =>
    simp only [if_true, pure_bind, bind_assoc]
    refine bind_congr fun _ => bind_congr fun _ => bind_congr fun flow => ?_
    cases flow <;> simp [repeatWhile]

theorem items_eq {σ : Type} {visit : σ → Value → Run (ForInStep σ)}
    (visits : ∀ acc v, Composed (.free evaluates) (visit acc v)) (c : Cursor) (acc : σ) :
    loop nextItem (visitItem visit) (c, acc) = (do
      match ← ask fun h => c.next h with
      | none => return acc
      | some (v, c) =>
        let v ← own v
        tick
        enter
        match ← visit acc v with
        | .done acc => return acc
        | .yield acc => loop nextItem (visitItem visit) (c, acc)) := by
  refine (loop_eq (fun s => paces_free (composed_nextItem s))
    (fun r => paces_free (composed_visitItem visits r)) (c, acc)).trans ?_
  simp only [turn, nextItem, bind_assoc]
  refine bind_congr fun found => ?_
  cases found with
  | none => simp
  | some item =>
    simp only [pure_bind, bind_assoc, visitItem]
    refine bind_congr fun v => bind_congr fun _ => bind_congr fun _ => bind_congr fun step => ?_
    cases step <;> simp

end

section
variable (known : r.Known (.free True)) (scope : Nat)
include known

-- A round that ends with `break` ends the loop as a whole, and one that ends with `continue` leads to
-- the next one. What follows the loop is out of its reach.
theorem whileOn_eq (test : Script.Expr) (body orelse : List Stmt) :
    r.whileOn scope test body orelse = (do
      if ← isTrue (← r.eval scope test) then
        tick
        enter
        thenElse (← r.block scope body) (r.whileOn scope test body orelse)
      else r.block scope orelse) := by
  have tests : Composed (.free True) (do isTrue (← r.eval scope test)) :=
    .step (known.eval scope test fun _ _ _ _ => trivial) composed_isTrue
  have bodies := known_block known ⟨false, false⟩ (trivial : Licence.scopes _ scope) body
    fun _ _ => trivial
  refine (congrArg (· >>= (thenElse · (r.block scope orelse))) (repeatWhile_eq tests bodies)).trans ?_
  simp only [bind_assoc]
  refine bind_congr fun v => bind_congr fun holds => ?_
  cases holds with
  | false => simp [thenElse]
  | true =>
    simp only [if_true, bind_assoc]
    refine bind_congr fun _ => bind_congr fun _ => bind_congr fun flow => ?_
    cases flow <;> simp [thenElse, Rules.whileOn]

theorem forOn_eq (target : Script.Expr) (body orelse : List Stmt) (c : Cursor) :
    r.forOn scope target body orelse c = (do
      match ← ask fun h => c.next h with
      | none => r.block scope orelse
      | some (v, c) =>
        let v ← own v
        tick
        enter
        r.assign scope target v
        thenElse (← r.block scope body) (r.forOn scope target body orelse c)) := by
  have covered : Script.Covered (fun _ => True) (.operand, target) := fun _ _ _ _ => trivial
  have visits : ∀ (_ : Flow) v, Composed (.free True) (do
      r.assign scope target v
      return Rules.round (← r.block scope body)) := by
    intro _ v
    refine .step (known_assign known trivial target covered (fun _ => trivial) v) fun _ => ?_
    exact .step (known_block known ⟨false, false⟩ trivial body fun _ _ => trivial) fun _ => .value _
  refine (congrArg (· >>= (thenElse · (r.block scope orelse))) (items_eq visits c .normal)).trans ?_
  simp only [bind_assoc]
  refine bind_congr fun found => ?_
  cases found with
  | none => simp [thenElse]
  | some item =>
    simp only [bind_assoc, pure_bind]
    refine bind_congr fun v => bind_congr fun _ => bind_congr fun _ => bind_congr fun _ =>
      bind_congr fun flow => ?_
    cases flow <;> simp [Rules.round, thenElse, Rules.forOn]

end

theorem exec_for (room scope : Nat) (body orelse : List Stmt) (target iter : Script.Expr) :
    (rules (room + 1)).exec scope (.forLoop target iter body orelse) = (do
      enter
      tick
      let source ← (rules room).eval scope iter
      (rules room).forOn scope target body orelse (← ask (Cursor.ofValue · source))) := by
  change (do enter; (rules room).execStmt scope (.forLoop target iter body orelse)) = _
  simp only [Rules.execStmt, foldItems, bind_assoc]
  rfl

end Run

-- A body that has been run as a whole, to its end or to where it gives a value back.
def Flow.IsComplete : Flow → Prop
  | .normal | .returned _ => True
  | .broke | .continued => False

namespace Session
open Run

variable {p : Script.Program}

-- Functions consist of what stands in functions of the program.
def owned (p : Script.Program) : Licence :=
  ⟨fun _ => True, fun node => p.body.Has node.1 node.2, fun _ => True, True⟩

theorem admits_owned (p : Script.Program) : (owned p).Admits p where
  evaluates := trivial
  covered := fun _ => Script.stmtCovered_any _
  inner := fun ⟨top, member, within⟩ part => ⟨top, member, within.tail part⟩
  scopes := fun _ => trivial
  body := fun s member => ⟨s, member, .refl⟩

theorem exec_placed {around : Script.Around} {s : Stmt} (has : p.body.Has around s)
    (room scope : Nat) : Yields ((Run.rules room).exec scope s) (Flow.Within fun signal =>
      s.Sends signal ∧ signal.Placed around) := by
  intro l m flow m' ran signal same
  have sent := sends_rules room scope s l m flow m' ran signal same
  exact ⟨sent, Script.sends_placed sent (Script.has_supported has)⟩

theorem block_placed {around : Script.Around} {body : List Stmt}
    (has : ∀ s ∈ body, p.body.Has around s) (room scope : Nat) :
    Yields ((Run.rules room).block scope body) (Flow.Within (Signal.Placed around)) :=
  yields_block (sends_rules room) scope body fun s member _ sent =>
    Script.sends_placed sent (Script.has_supported (has s member))

theorem complete_function {flow : Flow} (within : flow.Within (Signal.Placed ⟨false, true⟩)) :
    flow.IsComplete := by
  cases flow with
  | normal | returned => trivial
  | broke => exact absurd (within .leave rfl) Bool.false_ne_true
  | continued => exact absurd (within .next rfl) Bool.false_ne_true

theorem normal_module {flow : Flow} (within : flow.Within (Signal.Placed ⟨false, false⟩)) :
    flow = .normal := by
  cases flow with
  | normal => rfl
  | broke => exact absurd (within .leave rfl) Bool.false_ne_true
  | continued => exact absurd (within .next rfl) Bool.false_ne_true
  | returned => exact absurd (within .giveBack rfl) Bool.false_ne_true

-- The module ends by itself, and so does every function, unless it gives a value back. A statement
-- ends only with a signal that stands open in it, where there is a loop or a function that the signal
-- means; and it is the innermost loop that catches it.
theorem signals_closed (p : Script.Program) :
    (∀ room scope l m flow m', (Run.rules room).block scope p.body l m = .ok flow m' →
        flow = .normal) ∧
      (∀ around name params defaults body plain decorated line,
        p.body.Has around (.funcDef name params defaults body plain decorated line) →
          ∀ room scope l m flow m', (Run.rules room).block scope body l m = .ok flow m' →
            flow.IsComplete) ∧
      (∀ s, Reached p s → ∀ at_ room scope l m flow m',
        (Run.rules room).block scope (s.machine.heap.closureAt at_).body l m = .ok flow m' →
          flow.IsComplete) ∧
      (∀ around s, p.body.Has around s → ∀ room scope l m flow m',
        (Run.rules room).exec scope s l m = .ok flow m' → ∀ signal, flow.signal? = some signal →
          s.Sends signal ∧ signal.Placed around) ∧
      ∀ room scope body orelse, let r := Run.rules room
        (∀ test, (Run.rules (room + 1)).exec scope (.whileLoop test body orelse) = (do
          enter
          tick
          r.whileOn scope test body orelse)) ∧
        (∀ target iter, (Run.rules (room + 1)).exec scope (.forLoop target iter body orelse) = (do
          enter
          tick
          let source ← r.eval scope iter
          r.forOn scope target body orelse (← ask (Cursor.ofValue · source)))) ∧
        (∀ test, r.whileOn scope test body orelse = (do
          if ← isTrue (← r.eval scope test) then
            tick
            enter
            thenElse (← r.block scope body) (r.whileOn scope test body orelse)
          else r.block scope orelse)) ∧
        ∀ target c, r.forOn scope target body orelse c = (do
          match ← ask fun h => c.next h with
          | none => r.block scope orelse
          | some (v, c) =>
            let v ← own v
            tick
            enter
            r.assign scope target v
            thenElse (← r.block scope body) (r.forOn scope target body orelse c)) := by
  refine ⟨?_, ?_, ?_, fun _ _ has room scope => exec_placed has room scope, ?_⟩
  · intro room scope l m flow m' ran
    exact normal_module (block_placed (fun s member => ⟨s, member, .refl⟩) room scope l m _ m' ran)
  · rintro around name params defaults body plain decorated line ⟨top, member, within⟩
    intro room scope l m flow m' ran
    have has : ∀ s ∈ body, p.body.Has ⟨false, true⟩ s := fun s inside =>
      ⟨top, member, within.tail (List.mem_map_of_mem inside)⟩
    exact complete_function (block_placed has room scope l m _ m' ran)
  · intro s reached at_ room scope l m flow m' ran
    have has := (reached_holds (admits_owned p) reached).closures at_
    exact complete_function (block_placed has room scope l m _ m' ran)
  · intro room scope body orelse
    have known := known_rules suits_free room
    exact ⟨fun _ => rfl, exec_for room scope body orelse,
      fun test => whileOn_eq known scope test body orelse,
      fun target c => forOn_eq known scope target body orelse c⟩

-- The first item of the rows that counts as true. The `break` leaves the loop around the one that it
-- follows.
def findLoop : Stmt :=
  .forLoop (.name "row" 7) (.name "rows" 7)
    [.whileLoop (.const (.bool true))
      [.forLoop (.name "x" 9) (.name "row" 9)
        [.branch (.name "x" 10) [.giveBack (some (.name "x" 10)) 10] [], .next 11] [.leave 13]] []] []

-- The `continue` goes on with the loop around the one that it follows.
def nestedLoops : Script.Program :=
  ⟨[.forLoop (.name "n" 1) (.tuple [.const (.int 1), .const (.int 0)])
      [.whileLoop (.name "n" 2) [.leave 3] [.next 5]] [],
    .funcDef "find" ["rows"] [] [findLoop, .giveBack none 14] true false 6], rfl⟩

def asked : Machine :=
  let rows : List Value := [.tuple (some 0) [.int 0, .int 0], .tuple (some 1) [.int 0, .int 3]]
  let heap := (Heap.initial.newFrame ⟨#[("rows", .tuple (some 2) rows)], some moduleScope⟩).2
  { heap := { heap with marks := 3 } }

theorem nestedLoops_closed :
    (∃ flow m, (Run.rules 100).block moduleScope nestedLoops.body {} {} = .ok flow m ∧
      flow = .normal) ∧
    (∃ flow m, (Run.rules 100).block 1 [findLoop, .giveBack none 14] {} asked = .ok flow m ∧
      flow.IsComplete) ∧
    (∃ s flow m, Reached nestedLoops s ∧
      (Run.rules 100).block 1 (s.machine.heap.closureAt 0).body {} asked = .ok flow m ∧
        flow.IsComplete) ∧
    ∃ flow m, (Run.rules 100).exec 1 findLoop {} asked = .ok flow m ∧
      flow.signal? = some .giveBack ∧ findLoop.Sends .giveBack ∧
        Signal.Placed ⟨false, true⟩ .giveBack := by
  obtain ⟨module, body, function, placed, -⟩ := signals_closed nestedLoops
  have defined : nestedLoops.body.Has ⟨false, false⟩
      (.funcDef "find" ["rows"] [] [findLoop, .giveBack none 14] true false 6) :=
    ⟨_, List.mem_cons_of_mem _ List.mem_cons_self, .refl⟩
  refine ⟨?_, ?_, ?_, ?_⟩
  · have ends : (given? ((Run.rules 100).block moduleScope nestedLoops.body {} {})).isSome = true := by
      decide +kernel
    obtain ⟨end_, given⟩ := Option.isSome_iff_exists.mp ends
    have ran := given_some given
    exact ⟨end_.1, end_.2, ran, module _ _ _ _ _ _ ran⟩
  · have ends : (given? ((Run.rules 100).block 1 [findLoop, .giveBack none 14] {} asked)).isSome =
        true := by decide +kernel
    obtain ⟨end_, given⟩ := Option.isSome_iff_exists.mp ends
    have ran := given_some given
    exact ⟨end_.1, end_.2, ran, body _ _ _ _ _ _ _ _ defined _ _ _ _ _ _ ran⟩
  · have ends : ((start nestedLoops {}).toOption.bind fun s =>
        given? ((Run.rules 100).block 1 (s.machine.heap.closureAt 0).body {} asked)).isSome =
        true := by decide +kernel
    obtain ⟨end_, whole⟩ := Option.isSome_iff_exists.mp ends
    obtain ⟨s, started, given⟩ := Option.bind_eq_some_iff.mp whole
    have reached : Reached nestedLoops s := .started (toOption_some started)
    have ran := given_some given
    exact ⟨s, end_.1, end_.2, reached, ran, function s reached _ _ _ _ _ _ _ ran⟩
  · have ends : (given? ((Run.rules 100).exec 1 findLoop {} asked)).map (·.1.signal?) =
        some (some .giveBack) := by decide +kernel
    obtain ⟨end_, given, sent⟩ := Option.map_eq_some_iff.mp ends
    have ran := given_some given
    have inside : nestedLoops.body.Has ⟨false, true⟩ findLoop := by
      obtain ⟨top, member, within⟩ := defined
      exact ⟨top, member, within.tail List.mem_cons_self⟩
    exact ⟨end_.1, end_.2, ran, sent, placed _ _ inside _ _ _ _ _ _ ran .giveBack sent⟩

end Session
end ScriptArena
