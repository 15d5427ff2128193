import ScriptArena.Run.Session

namespace ScriptArena.Run

variable {α β σ τ : Type} (l : Limits) (m : Machine)

theorem run_bind (x : Run α) (f : α → Run β) :
    (x >>= f) l m = match x l m with
      | .ok a mid => f a l mid
      | .error e mid => .error e mid := by
  change EStateM.bind (x l) (f · l) m = _
  unfold EStateM.bind
  cases x l m with
  | ok a mid => rfl
  | error e mid => rfl

theorem bind_ok {l : Limits} {m m' : Machine} {x : Run α} {f : α → Run β} {b : β}
    (ran : (x >>= f) l m = .ok b m') : ∃ a mid, x l m = .ok a mid ∧ f a l mid = .ok b m' := by
  rw [run_bind] at ran
  cases first : x l m with
  | ok a mid =>
    rw [first] at ran
    exact ⟨a, mid, rfl, ran⟩
  | error e mid =>
    rw [first] at ran
    cases ran

theorem run_allocate (f : Heap → α × Heap) :
    allocate f l m = .ok (f m.heap).1 { m with heap := (f m.heap).2 } := rfl

theorem run_guarded (g : Limits → Heap → Except Trouble α) :
    guarded g l m = match g l m.heap with
      | .ok a => .ok a m
      | .error e => .error e.toFault m := by
  change settle (g l m.heap) l m = _
  cases g l m.heap with
  | ok a => rfl
  | error e => rfl

theorem run_ask (f : Heap → Except Trouble α) :
    ask f l m = match f m.heap with
      | .ok a => .ok a m
      | .error e => .error e.toFault m := run_guarded l m fun _ => f

theorem run_checkTime :
    checkTime l m = match l.time with
      | .ample => .ok () m
      | .spent seconds => .error (.limit (.time seconds)) m := by
  change (match l.time with
    | .ample => pure ()
    | .spent seconds => stop (.time seconds) : Run Unit) l m = _
  cases l.time with
  | ample => rfl
  | spent seconds => rfl

theorem run_checkDepth :
    checkDepth l m =
      if l.maxCallDepth ≤ m.depth then .error (.limit (.depth l.maxCallDepth)) m
      else .ok () m := by
  change (if l.maxCallDepth ≤ m.depth then stop (.depth l.maxCallDepth)
    else pure () : Run Unit) l m = _
  split
  · rfl
  · rfl

theorem run_tick :
    tick l m =
      if l.maxSteps < m.counted.steps then .error (.limit (.steps l.maxSteps)) m.counted
      else if m.counted.steps % 1000 = 0 then checkTime l m.counted
      else .ok () m.counted := by
  change (do
    if l.maxSteps < m.counted.steps then stop (.steps l.maxSteps)
    if m.counted.steps % 1000 = 0 then checkTime : Run Unit) l m.counted = _
  by_cases beyond : l.maxSteps < m.counted.steps
  · rw [if_pos beyond, if_pos beyond]
    rfl
  · rw [if_neg beyond, if_neg beyond]
    split
    · rfl
    · rfl

theorem run_emit (made : Made) :
    emit made l m = match made with
      | .value (.str s) => .ok () { m with transcript := m.transcript.print l s }
      | _ =>
        if m.transcript.isFull l then
          .ok () { m with transcript := { m.transcript with truncated := true, idle := true } }
        else .error (.failure (.cannotConcat "str" "bytes")) m := by
  have other : (if m.transcript.isFull l then
        modify fun m => { m with transcript := { m.transcript with truncated := true, idle := true } }
      else throw (.failure (.cannotConcat "str" "bytes")) : Run Unit) l m =
      if m.transcript.isFull l then
        .ok () { m with transcript := { m.transcript with truncated := true, idle := true } }
      else .error (.failure (.cannotConcat "str" "bytes")) m := by
    split
    · rfl
    · rfl
  cases made with
  | value v =>
    cases v with
    | str s => rfl
    | _ => exact other
  | list | set => exact other

theorem run_operate (op : Script.Operator) (a b : Value) :
    operate op a b l m = match Guard.binary m.heap l op a b with
      | .error e => .error e.toFault m
      | .ok () => match op.foreign? with
        | some name => .error (.noOperator name) m
        | none => match Value.binary m.heap op a b with
          | .error e => .error e.toFault m
          | .ok made => keep made l m := by
  unfold operate
  rw [run_bind, run_guarded]
  cases Guard.binary m.heap l op a b with
  | error e => rfl
  | ok _ =>
    dsimp only
    cases op.foreign? with
    | some name => rfl
    | none =>
      dsimp only
      rw [run_bind, run_ask]
      cases Value.binary m.heap op a b with
      | error e => rfl
      | ok made => rfl

-- An operation is carried out if its guard lets it pass; what it makes is kept in the heap.
theorem operate_iff {l : Limits} {m m' : Machine} {op : Script.Operator} {a b v : Value} :
    operate op a b l m = .ok v m' ↔ Guard.binary m.heap l op a b = .ok () ∧
      ∃ made, Value.binary m.heap op a b = .ok made ∧ keep made l m = .ok v m' := by
  rw [run_operate]
  cases passed : Guard.binary m.heap l op a b with
  | error e => simp
  | ok _ =>
    cases op with
    | matMul | bitAnd | bitOr | bitXor | leftShift | rightShift =>
      simp [Script.Operator.foreign?, Value.binary]
    | add | sub | mul | div | floorDiv | mod | pow =>
      simp only [Script.Operator.foreign?, true_and]
      split
      · rename_i failed
        simp [failed]
      · rename_i made
        simp [made]

theorem run_loop (probe : σ → Run (τ ⊕ α)) (body : τ → Run (σ ⊕ α)) (s : σ) :
    loop probe body s l m = rounds probe body ((l.maxSteps - m.steps).toNat + 1) s l m := rfl

section
variable {P : (α : Type) → Run α → Prop} (value : ∀ α a, P α (pure a))
  (step : ∀ {α β : Type} {x : Run α} {f : α → Run β}, P α x → (∀ a, P β (f a)) → P β (x >>= f))
  (ticks : P Unit tick) (enters : P Unit enter)
include value step ticks enters

theorem turn_keeps {probe : σ → Run (τ ⊕ α)} {body : τ → Run (σ ⊕ α)} (probes : ∀ s, P _ (probe s))
    (bodies : ∀ r, P _ (body r)) (s : σ) : P _ (turn probe body s) := by
  refine step (probes s) fun found => ?_
  cases found with
  | inr a => exact value _ _
  | inl r => exact step ticks fun _ => step enters fun _ => bodies r

-- What computations in a row keep, a loop keeps.
theorem loop_keeps (left : P Nat stepsLeft)
    (spent : ∀ α, P α (do stop (.steps (← read).maxSteps))) {probe : σ → Run (τ ⊕ α)}
    {body : τ → Run (σ ⊕ α)} (probes : ∀ s, P _ (probe s)) (bodies : ∀ r, P _ (body r)) (s : σ) :
    P _ (loop probe body s) := by
  refine step left fun fuel => ?_
  induction fuel generalizing s with
  | zero => exact spent _
  | succ fuel ih =>
    refine step (turn_keeps value step ticks enters probes bodies s) fun next => ?_
    cases next with
    | inr a => exact value _ _
    | inl s => exact ih s

end

-- An ending with another machine, depending on what kind of an ending it is.
def leaving (given stopped : Machine → Machine) :
    EStateM.Result Fault Machine α → EStateM.Result Fault Machine α
  | .ok a m => .ok a (given m)
  | .error e m => .error e (stopped m)

theorem run_deeper (x : Run α) :
    deeper x l m = leaving (fun m => { m with depth := m.depth - 1 })
      (fun m => { m with depth := m.depth - 1 }) (x l m.deepened) := by
  unfold deeper
  cases x l m.deepened with
  | ok a m' => rfl
  | error e m' => rfl

-- A call that is one too many is refused.
theorem run_called (x : Run α) :
    (checkDepth >>= fun _ => deeper x) l m =
      if l.maxCallDepth ≤ m.depth then .error (.limit (.depth l.maxCallDepth)) m
      else leaving (fun m => { m with depth := m.depth - 1 })
        (fun m => { m with depth := m.depth - 1 }) (x l m.deepened) := by
  rw [run_bind, run_checkDepth]
  by_cases beyond : l.maxCallDepth ≤ m.depth
  · rw [if_pos beyond, if_pos beyond]
  · rw [if_neg beyond, if_neg beyond]
    exact run_deeper l m x

theorem run_undoing (undo : Heap → Heap) (x : Run α) :
    undoing undo x l m = leaving id (fun m => { m with heap := undo m.heap }) (x l m) := by
  unfold undoing
  cases x l m with
  | ok a m' => rfl
  | error e m' => rfl

theorem run_flushed (x : Run α) :
    flushed x l m = leaving (fun m => { m with transcript := m.transcript.flush l })
      (fun m => { m with transcript := m.transcript.flush l }) (x l m) := by
  unfold flushed
  cases x l m with
  | ok a m' => rfl
  | error e m' => rfl

-- What a run gave or why it stopped, and the machine that it left.
def given? : EStateM.Result Fault Machine α → Option (α × Machine)
  | .ok a m => some (a, m)
  | .error .. => none

def stopped? : EStateM.Result Fault Machine α → Option (Fault × Machine)
  | .ok .. => none
  | .error e m => some (e, m)

theorem given_some {r : EStateM.Result Fault Machine α} {end_ : α × Machine}
    (given : given? r = some end_) : r = .ok end_.1 end_.2 := by
  cases r with
  | ok a m =>
    cases given
    rfl
  | error e m => cases given

theorem stopped_some {r : EStateM.Result Fault Machine α} {end_ : Fault × Machine}
    (stopped : stopped? r = some end_) : r = .error end_.1 end_.2 := by
  cases r with
  | ok a m => cases stopped
  | error e m =>
    cases stopped
    rfl

theorem toOption_some {ε : Type} {r : Except ε α} {a : α} (given : r.toOption = some a) :
    r = .ok a := by
  cases r with
  | ok b =>
    cases given
    rfl
  | error e => cases given

end ScriptArena.Run

namespace ScriptArena.Session

-- A session is what the module body leaves.
theorem start_ran {p : Script.Program} {l : Limits} {s : Session} (ran : start p l = .ok s) :
    s.limits = l ∧ ∃ flow, runModule p l {} = .ok flow s.machine := by
  unfold start at ran
  split at ran
  · rename_i flow m ended
    cases ran
    exact ⟨rfl, flow, ended⟩
  · cases ran

end ScriptArena.Session
