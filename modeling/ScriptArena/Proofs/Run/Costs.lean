import ScriptArena.Proofs.Run.Soundness
import ScriptArena.Proofs.Run.Steps
import ScriptArena.Proofs.Script.Sizes

namespace ScriptArena

open Script (Expr Stmt)

-- Whatever evaluates nothing.
def Licence.quiet (stmts : Script.Around × Stmt → Prop) : Licence :=
  ⟨fun _ => True, stmts, fun _ => True, False⟩

-- Functions consist of statements that a step pays for.
abbrev Licence.small (bound : Nat) : Licence := .quiet fun node => node.2.nodes ≤ bound

namespace Run

variable {bound cost : Nat} {α β σ τ : Type}

-- From one machine to the next, beside what its steps pay for, the work is at most the cost.
structure Spends (bound cost : Nat) (m m' : Machine) : Prop where
  holds : m'.heap.Holds (.small bound)
  counts : m.steps ≤ m'.steps
  works : m'.work + bound * m.steps ≤ m.work + cost + bound * m'.steps

def Spent (bound cost : Nat) (m : Machine) : EStateM.Result Fault Machine α → Prop
  | .ok _ m' | .error _ m' => Spends bound cost m m'

-- A cost that a step would not pay for is not told about.
def Costs (bound cost : Nat) (x : Run α) : Prop :=
  cost < bound → ∀ l m, m.heap.Holds (.small bound) → Spent bound cost m (x l m)

theorem Spends.trans {cost' : Nat} {m mid m' : Machine} (one : Spends bound cost m mid)
    (two : Spends bound cost' mid m') : Spends bound (cost + cost') m m' := by
  have work := one.works
  have work' := two.works
  exact ⟨two.holds, Nat.le_trans one.counts two.counts, by omega⟩

theorem Spends.more {more : Nat} {m m' : Machine} (spends : Spends bound cost m m')
    (enough : cost ≤ more) : Spends bound more m m' := by
  have work := spends.works
  exact ⟨spends.holds, spends.counts, by omega⟩

-- Both kinds of endings are told about in the same way.
theorem Spent.told {cost' : Nat} {m begun : Machine} {r : EStateM.Result Fault Machine α}
    (spent : Spent bound cost begun r)
    (tells : ∀ m', Spends bound cost begun m' → Spends bound cost' m m') :
    Spent bound cost' m r := by
  cases r with
  | ok a m' => exact tells m' spent
  | error e m' => exact tells m' spent

theorem Spent.more {more : Nat} {m : Machine} {r : EStateM.Result Fault Machine α}
    (spent : Spent bound cost m r) (enough : cost ≤ more) : Spent bound more m r :=
  spent.told fun _ spends => spends.more enough

theorem Spent.after {cost' : Nat} {m mid : Machine} {r : EStateM.Result Fault Machine α}
    (first : Spends bound cost m mid) (rest : Spent bound cost' mid r) :
    Spent bound (cost + cost') m r :=
  rest.told fun _ => first.trans

theorem Costs.more {more : Nat} {x : Run α} (costs : Costs bound cost x) (enough : cost ≤ more) :
    Costs bound more x :=
  fun paid l m holds => (costs (by omega) l m holds).more enough

theorem costs_step {cost' : Nat} {x : Run α} {f : α → Run β} (first : Costs bound cost x)
    (rest : ∀ a, Costs bound cost' (f a)) : Costs bound (cost + cost') (x >>= f) := by
  intro paid l m holds
  have spent := first (by omega) l m holds
  rw [run_bind]
  cases ended : x l m with
  | error e mid =>
    rw [ended] at spent
    exact Spends.more spent (by omega)
  | ok a mid =>
    rw [ended] at spent
    exact .after spent (rest a (by omega) l mid spent.holds)

-- The last part is what costs.
theorem costs_last {x : Run α} {f : α → Run β} (first : Costs bound 0 x)
    (rest : ∀ a, Costs bound cost (f a)) : Costs bound cost (x >>= f) :=
  (costs_step first rest).more (by omega)

-- The first part is what costs.
theorem costs_first {x : Run α} {f : α → Run β} (first : Costs bound cost x)
    (rest : ∀ a, Costs bound 0 (f a)) : Costs bound cost (x >>= f) :=
  costs_step first rest

theorem costs_quiet {x : Run α} (quiet : ∀ stmts, Composed (.quiet stmts) x) : Costs bound 0 x := by
  intro positive l m holds
  have safe := sound_composed (quiet _) l m holds
  have paces : Paces (.free False) x := paces_free (quiet fun _ => True)
  have paced := paces l m
  suffices spends : ∀ m', m.heap.Grows (.small bound) m'.heap → Counted (.free False) m m' →
      Spends bound 0 m m' by
    cases ended : x l m with
    | ok a m' =>
      rw [ended] at safe paced
      exact spends m' safe paced.1
    | error e m' =>
      rw [ended] at safe paced
      exact spends m' safe.1 paced.1
  intro m' grows counted
  refine ⟨holds.grown grows, counted.counts, ?_⟩
  have work := counted.works id
  obtain ⟨more, same⟩ := Nat.exists_eq_add_of_le counted.counts
  have paid := Nat.le_mul_of_pos_left more positive
  rw [same, Nat.mul_add]
  omega

theorem costs_value (a : α) : Costs bound 0 (pure a) := costs_quiet fun _ => .value a

theorem costs_stop (e : Fault) : Costs bound 0 (throw e : Run α) := fun _ _ _ holds =>
  ⟨holds, Nat.le_refl _, Nat.le_refl _⟩

theorem costs_inspect {at_ : Nat} {f : Closure → Run α}
    (rest : ∀ c : Closure, (∀ s ∈ c.body, s.nodes ≤ bound) → Costs bound cost (f c)) :
    Costs bound cost (look (·.closureAt at_) >>= f) :=
  fun paid l m holds => rest _ (holds.closures at_) paid l m holds

theorem costs_newFrame (f : Frame) : Costs bound 0 (newFrame f) := fun _ _ _ holds =>
  ⟨holds.grown (holds.newFrame f), Nat.le_refl _, Nat.le_refl _⟩

theorem costs_newClosure {c : Closure} (small : ∀ s ∈ c.body, s.nodes ≤ bound) :
    Costs bound 0 (allocate (·.newClosure c)) := fun _ _ _ holds =>
  ⟨holds.grown (holds.newClosure small), Nat.le_refl _, Nat.le_refl _⟩

theorem Spent.leaving {m begun : Machine} {r : EStateM.Result Fault Machine α}
    {given stopped : Machine → Machine} (spent : Spent bound cost begun r)
    (gave : ∀ m', Spends bound cost begun m' → Spends bound cost m (given m'))
    (stops : ∀ m', Spends bound cost begun m' → Spends bound cost m (stopped m')) :
    Spent bound cost m (leaving given stopped r) := by
  cases r with
  | ok a m' => exact gave m' spent
  | error e m' => exact stops m' spent

theorem costs_deeper {x : Run α} (inner : Costs bound cost x) : Costs bound cost (deeper x) := by
  intro paid l m holds
  rw [run_deeper]
  have spent := inner paid l m.deepened holds
  exact spent.leaving (fun _ spends => ⟨spends.holds, spends.counts, spends.works⟩)
    fun _ spends => ⟨spends.holds, spends.counts, spends.works⟩

theorem costs_flushed {x : Run α} (inner : Costs bound cost x) : Costs bound cost (flushed x) := by
  intro paid l m holds
  rw [run_flushed]
  exact (inner paid l m holds).leaving
    (fun _ spends => ⟨spends.holds, spends.counts, spends.works⟩)
    fun _ spends => ⟨spends.holds, spends.counts, spends.works⟩

theorem costs_enter {x : Run α} (inner : Costs bound cost x) :
    Costs bound (1 + cost) (enter >>= fun _ => x) := by
  intro paid l m holds
  have entered : Spends bound 1 m m.worked := ⟨holds, Nat.le_refl _, Nat.le_refl _⟩
  exact .after entered (inner (by omega) l m.worked holds)

theorem tick_counted (l : Limits) (m : Machine) :
    tick l m = .ok () m.counted ∨ ∃ e, tick l m = .error e m.counted := by
  rw [run_tick]
  split
  · exact .inr ⟨_, rfl⟩
  · split
    · rw [run_checkTime]
      split
      · exact .inl rfl
      · exact .inr ⟨_, rfl⟩
    · exact .inl rfl

-- A step pays for the node or the round that it is counted for, for what that costs, and for what is
-- to be saved of it.
theorem Spends.paid {m mid m' : Machine} (saved : Nat) (steps : mid.steps = m.steps + 1)
    (work : mid.work = m.work + 1) (rest : Spends bound cost mid m')
    (enough : 1 + cost + saved ≤ bound) :
    Spends bound 0 m { m' with work := m'.work + saved } := by
  have spent := rest.works
  rw [steps, work, Nat.mul_succ] at spent
  refine ⟨rest.holds, ?_, ?_⟩
  · exact Nat.le_trans (steps ▸ Nat.le_succ _) rest.counts
  · change m'.work + saved + bound * m.steps ≤ m.work + 0 + bound * m'.steps
    omega

theorem Spends.counted {m : Machine} (holds : m.heap.Holds (.small bound)) :
    Spends bound 0 m m.counted := by
  refine ⟨holds, Nat.le_succ _, ?_⟩
  change m.work + bound * m.steps ≤ m.work + 0 + bound * (m.steps + 1)
  rw [Nat.mul_succ]
  omega

theorem Spends.refl {m : Machine} (holds : m.heap.Holds (.small bound)) : Spends bound 0 m m :=
  ⟨holds, Nat.le_refl _, Nat.le_refl _⟩

-- What a statement costs is paid for by its step, and so is the statement.
theorem costs_stmt {x : Run α} (inner : Costs bound cost x) (enough : 1 + cost ≤ bound) :
    Costs bound 0 (enter >>= fun _ => tick >>= fun _ => x) := by
  intro _ l m holds
  change Spent bound 0 m ((tick >>= fun _ => x) l m.worked)
  rw [run_bind]
  rcases tick_counted l m.worked with ticked | ⟨e, ticked⟩
  · rw [ticked]
    have spent := inner (by omega) l m.worked.counted holds
    exact spent.told fun m' rest => Spends.paid (m := m) 0 rfl rfl rest enough
  · rw [ticked]
    have refused : Spends bound 0 m.worked.counted m.worked.counted := .refl holds
    exact Spends.paid (m := m) 0 rfl rfl refused (by omega)

-- What was saved is spent on what comes next.
theorem Spent.resumed {saved : Nat} {m mid : Machine} {r : EStateM.Result Fault Machine α}
    (first : Spends bound cost m { mid with work := mid.work + saved })
    (rest : Spent bound saved mid r) : Spent bound cost m r := by
  refine rest.told fun m' later => ?_
  have before : mid.work + saved + bound * m.steps ≤ m.work + cost + bound * mid.steps := first.works
  have after := later.works
  exact ⟨later.holds, Nat.le_trans first.counts later.counts, by omega⟩

-- A round that leads to another one saves something for it.
def Turned (bound cost saved : Nat) (m : Machine) : EStateM.Result Fault Machine (σ ⊕ α) → Prop
  | .ok (.inl _) m' => Spends bound cost m { m' with work := m'.work + saved }
  | .ok (.inr _) m' | .error _ m' => Spends bound cost m m'

theorem Turned.after {saved : Nat} {m mid : Machine} {r : EStateM.Result Fault Machine (σ ⊕ α)}
    (first : Spends bound cost m mid) (rest : Turned bound 0 saved mid r) :
    Turned bound cost saved m r := by
  cases r with
  | error e m' => exact first.trans rest
  | ok next m' =>
    cases next with
    | inl s => exact first.trans rest
    | inr a => exact first.trans rest

section
variable {inner : Nat} {probe : σ → Run (τ ⊕ α)} {body : τ → Run (σ ⊕ α)}
  (probes : ∀ s, Costs bound cost (probe s)) (bodies : ∀ r, Costs bound inner (body r))
  (paid : cost + inner < bound)

include bodies paid in
theorem turned_body (r : τ) (l : Limits) (m : Machine) (holds : m.heap.Holds (.small bound)) :
    Turned bound 0 cost m ((tick >>= fun _ => enter >>= fun _ => body r) l m) := by
  rw [run_bind]
  rcases tick_counted l m with ticked | ⟨e, ticked⟩
  · rw [ticked]
    have spent := bodies r (by omega) l m.counted.worked holds
    change Turned bound 0 cost m (body r l m.counted.worked)
    cases ended : body r l m.counted.worked with
    | error e m' =>
      rw [ended] at spent
      exact Spends.paid (m := m) 0 rfl rfl spent (by omega)
    | ok next m' =>
      rw [ended] at spent
      cases next with
      | inl s => exact Spends.paid (m := m) cost rfl rfl spent (by omega)
      | inr a => exact Spends.paid (m := m) 0 rfl rfl spent (by omega)
  · rw [ticked]
    exact Spends.counted holds

include probes bodies paid

theorem turned_turn (s : σ) (l : Limits) (m : Machine) (holds : m.heap.Holds (.small bound)) :
    Turned bound cost cost m (turn probe body s l m) := by
  have first := probes s (by omega) l m holds
  rw [turn, run_bind]
  cases probed : probe s l m with
  | error e mid =>
    rw [probed] at first
    exact first
  | ok found mid =>
    rw [probed] at first
    cases found with
    | inr a => exact first
    | inl r => exact .after first (turned_body bodies paid r l mid first.holds)

-- The first probe is what a loop costs; all others are saved for.
theorem spent_rounds (fuel : Nat) (s : σ) (l : Limits) (m : Machine)
    (holds : m.heap.Holds (.small bound)) :
    Spent bound cost m (rounds probe body fuel s l m) := by
  induction fuel generalizing s m with
  | zero => exact Spends.more (.refl holds) (Nat.zero_le _)
  | succ fuel ih =>
    have turned := turned_turn probes bodies paid s l m holds
    rw [rounds, run_bind]
    cases ended : turn probe body s l m with
    | error e mid =>
      rw [ended] at turned
      exact turned
    | ok next mid =>
      rw [ended] at turned
      cases next with
      | inr a => exact turned
      | inl next =>
        exact .resumed turned (ih next mid turned.holds)

end

theorem costs_loop {inner : Nat} {probe : σ → Run (τ ⊕ α)} {body : τ → Run (σ ⊕ α)} (s : σ)
    (probes : ∀ s, Costs bound cost (probe s)) (bodies : ∀ r, Costs bound inner (body r)) :
    Costs bound (cost + inner) (loop probe body s) :=
  fun paid l m holds => (spent_rounds probes bodies paid _ s l m holds).more (by omega)

theorem costs_foldItems {visit : σ → Value → Run (ForInStep σ)}
    (visits : ∀ acc v, Costs bound cost (visit acc v)) (v : Value) (acc : σ) :
    Costs bound cost (foldItems visit v acc) := by
  have probes : ∀ s : Cursor × σ, Costs bound 0 (nextItem s) :=
    fun s => costs_quiet fun _ => composed_nextItem s
  have bodies : ∀ r, Costs bound cost (visitItem visit r) := by
    rintro ⟨v, c, acc⟩
    refine costs_first (visits acc v) fun step => ?_
    cases step with
    | done acc => exact costs_value _
    | yield acc => exact costs_value _
  refine costs_last (costs_quiet fun _ => composed_ask _) fun c => ?_
  exact (costs_loop (c, acc) probes bodies).more (by omega)

theorem costs_repeatWhile {test : Run Bool} {body : Run Flow} (tests : Costs bound cost test)
    (bodies : Costs bound 0 body) : Costs bound cost (repeatWhile test body) := by
  refine costs_loop () (fun _ => costs_first tests fun holds => ?_)
    (fun _ => costs_first bodies fun flow => ?_)
  · split
    · exact costs_value _
    · exact costs_value _
  · split
    · exact costs_value _
    · exact costs_value _
    · exact costs_value _

theorem costs_thenElse (flow : Flow) {orelse : Run Flow} (elses : Costs bound 0 orelse) :
    Costs bound 0 (thenElse flow orelse) := by
  cases flow with
  | normal | continued => exact elses
  | broke | returned => exact costs_value _

-- A node costs what it and the nodes within it are. A statement is paid for by its step.
structure Rules.Pays (bound : Nat) (r : Rules) : Prop where
  eval : ∀ scope e, Costs bound e.nodes (r.eval scope e)
  exec : ∀ scope s, s.nodes ≤ bound → Costs bound 0 (r.exec scope s)

open Script (nodesOfAll nodesOfBound nodesOfEntries nodesOfLinks nodesOfKeywords nodesOfGenerators
  nodesOfBlock)

theorem costs_each {f : Expr → Run α} (items : List Expr)
    (each : ∀ e, Costs bound e.nodes (f e)) : Costs bound (nodesOfAll items) (items.mapM f) := by
  induction items with
  | nil => exact costs_value []
  | cons e rest ih =>
    rw [List.mapM_cons]
    exact costs_step (each e) fun b => costs_first ih fun bs => costs_value (b :: bs)

section
variable {r : Rules} (pays : r.Pays bound)
include pays

theorem costs_block (scope : Nat) (body : List Stmt) (small : ∀ s ∈ body, s.nodes ≤ bound) :
    Costs bound 0 (r.block scope body) := by
  induction body with
  | nil => exact costs_value _
  | cons s rest ih =>
    obtain ⟨first, others⟩ := List.forall_mem_cons.mp small
    refine costs_last (pays.exec scope s first) fun flow => ?_
    cases flow with
    | normal => exact ih others
    | broke | continued | returned => exact costs_value _

theorem costs_callFunction (at_ : Nat) (args : Arguments) :
    Costs bound 0 (r.callFunction at_ args) := by
  refine costs_inspect fun c small => ?_
  refine costs_last (costs_quiet fun _ => composed_settle _) fun frame => ?_
  refine costs_last (costs_quiet fun _ => .checkDepth) fun _ => costs_deeper ?_
  refine costs_last (costs_newFrame frame) fun scope => ?_
  refine costs_last (costs_block pays scope c.body small) fun flow => ?_
  split
  · exact costs_value _
  · exact costs_value _

theorem costs_call (callee : Callee) (args : Arguments) : Costs bound 0 (r.call callee args) := by
  have other : ∀ call : Arguments → Run Value, (∀ stmts, Composed (.quiet stmts) (call args)) →
      Costs bound 0 (Rules.callOther call args) := by
    intro call calls
    refine costs_quiet fun stmts => composed_branch composed_failed ?_
    exact .step (calls stmts) fun v => .step .checkTime fun _ => .value v
  cases callee with
  | function i => exact costs_callFunction pays i args
  | builtin b => exact other _ fun _ => composed_builtin b args
  | textMethod m s => exact other _ fun _ => composed_textMethod m s args
  | listMethod m i => exact other _ fun _ => ListMethod.composed_call m i args
  | dictMethod m i => exact other _ fun _ => DictMethod.composed_call m i args
  | other type => exact costs_stop _

variable (scope : Nat)

theorem costs_evalArguments (args : List Expr) (keywords : List Script.Keyword) :
    Costs bound (nodesOfAll args + nodesOfKeywords keywords)
      (r.evalArguments scope args keywords) := by
  refine costs_step (costs_each args (pays.eval scope)) fun vs =>
    costs_first ?_ fun _ => costs_value _
  generalize ([] : List (String × Value)) = given
  induction keywords generalizing given with
  | nil => exact costs_value given
  | cons k rest ih =>
    rw [List.foldlM_cons]
    cases k with
    | named key e => exact costs_step (costs_first (pays.eval scope e) fun _ => costs_value _) ih
    | spread e => exact costs_step (costs_first (pays.eval scope e) fun _ => costs_value _) ih

theorem costs_evalCallee (e : Expr) : Costs bound e.nodes (r.evalCallee scope e) := by
  unfold Rules.evalCallee
  split
  · refine (costs_first (pays.eval scope _) fun v => costs_quiet fun _ => composed_settle _).more ?_
    exact Nat.le_add_left _ _
  · exact costs_first (pays.eval scope e) fun v => costs_value _

theorem costs_evalBound (e? : Option Expr) :
    Costs bound (nodesOfBound e?) (r.evalBound scope e?) := by
  cases e? with
  | none => exact costs_value _
  | some e => exact pays.eval scope e

theorem costs_evalKey (e : Expr) : Costs bound e.nodes (r.evalKey scope e) := by
  unfold Rules.evalKey
  split
  · rename_i lower upper step line
    refine Costs.more ?_ (Nat.le_add_left _ 1)
    refine costs_step (costs_evalBound pays scope lower) fun _ => ?_
    refine costs_step (costs_evalBound pays scope upper) fun _ => ?_
    exact costs_first (costs_evalBound pays scope step) fun _ => costs_value _
  · exact costs_first (pays.eval scope e) fun v => costs_value _

omit pays in
mutual

theorem costs_assign (pays : r.Pays bound) (scope : Nat) (e : Expr) (v : Value) :
    Costs bound e.nodes (r.assign scope e v) := by
  cases e with
  | name word line =>
    rw [Rules.assign]
    exact (costs_quiet fun _ => .bind trivial word v).more (Nat.zero_le _)
  | tuple items | list items =>
    rw [Rules.assign]
    refine (costs_last (costs_quiet fun _ => composed_unpack v _) fun vs => ?_).more
      (Nat.le_add_left _ 1)
    exact costs_assignEach pays scope items vs
  | subscript container key =>
    rw [Rules.assign]
    refine Costs.more ?_ (Nat.le_add_left _ 1)
    refine costs_step (pays.eval scope container) fun c => ?_
    refine costs_first (costs_evalKey pays scope key) fun k => ?_
    exact costs_quiet fun _ => composed_setItem c k v
  | _ =>
    simp only [Rules.assign]
    exact (costs_stop _).more (Nat.zero_le _)

theorem costs_assignEach (pays : r.Pays bound) (scope : Nat) (es : List Expr) (vs : List Value) :
    Costs bound (nodesOfAll es) (r.assignEach scope es vs) := by
  cases es with
  | nil => exact costs_value _
  | cons e rest =>
    cases vs with
    | nil => exact (costs_value ()).more (Nat.zero_le _)
    | cons v vs =>
      rw [Rules.assignEach]
      exact costs_step (costs_assign pays scope e v) fun _ => costs_assignEach pays scope rest vs

end

omit pays in
theorem costs_lookUp (name : String) : Costs bound 0 (lookUp scope name) := by
  intro _ l m holds
  rw [lookUp_asks, run_guarded]
  split
  · exact ⟨holds, Nat.le_refl _, Nat.le_refl _⟩
  · exact ⟨holds, Nat.le_refl _, Nat.le_refl _⟩

omit pays scope in
theorem costs_operate (op : Script.Operator) (a b : Value) : Costs bound 0 (operate op a b) :=
  costs_quiet fun _ => composed_operate a b fun _ _ => trivial

theorem costs_augment (op : Script.Operator) (v : Value) (e : Expr) :
    Costs bound e.nodes (r.augment scope op v e) := by
  cases e with
  | name word line =>
    refine Costs.more ?_ (Nat.zero_le _)
    refine costs_last (costs_lookUp scope word) fun current => ?_
    refine costs_last (costs_operate op current v) fun result => ?_
    exact costs_quiet fun _ => .bind trivial word result
  | subscript container key =>
    refine Costs.more ?_ (Nat.le_add_left _ 1)
    refine costs_step (pays.eval scope container) fun c => ?_
    refine costs_first (costs_evalKey pays scope key) fun k => ?_
    refine costs_last (costs_quiet fun _ => composed_ask _) fun made => ?_
    refine costs_last (costs_quiet fun _ => composed_keep made) fun current => ?_
    refine costs_last (costs_operate op current v) fun result => ?_
    exact costs_quiet fun _ => composed_setItem c k result
  | _ => exact (costs_stop _).more (Nat.zero_le _)

theorem costs_evalEntries (entries : List Script.Entry) (d : Dict) :
    Costs bound (nodesOfEntries entries) (r.evalEntries scope entries d) := by
  induction entries generalizing d with
  | nil => exact costs_value d
  | cons entry rest ih =>
    cases entry with
    | spread value => exact (costs_stop _).more (Nat.zero_le _)
    | pair key value =>
      refine costs_step (pays.eval scope key) fun k => costs_step (pays.eval scope value) fun v => ?_
      exact costs_last (costs_quiet fun _ => composed_settle _) fun k' => ih _

omit pays scope in
theorem costs_isTrue (v : Value) : Costs bound 0 (isTrue v) :=
  costs_quiet fun _ => composed_isTrue v

theorem costs_evalUntil (settled : Bool) (operands : List Expr) (v : Value) :
    Costs bound (nodesOfAll operands) (r.evalUntil scope settled operands v) := by
  induction operands generalizing v with
  | nil => exact costs_value v
  | cons e rest ih =>
    refine costs_step (pays.eval scope e) fun v => costs_last (costs_isTrue v) fun holds => ?_
    split
    · exact (costs_value v).more (Nat.zero_le _)
    · exact ih v

theorem costs_evalLinks (links : List Script.Link) (left : Value) :
    Costs bound (nodesOfLinks links) (r.evalLinks scope left links) := by
  induction links generalizing left with
  | nil => exact costs_value _
  | cons link rest ih =>
    obtain ⟨op, e⟩ := link
    refine costs_step (pays.eval scope e) fun right => ?_
    refine costs_last (costs_quiet fun _ => composed_ask _) fun holds => ?_
    split
    · exact ih right
    · exact (costs_value _).more (Nat.zero_le _)

theorem costs_allTrue (conditions : List Expr) :
    Costs bound (nodesOfAll conditions) (r.allTrue scope conditions) := by
  induction conditions with
  | nil => exact costs_value _
  | cons e rest ih =>
    refine costs_step (pays.eval scope e) fun v => costs_last (costs_isTrue v) fun holds => ?_
    split
    · exact ih
    · exact (costs_value _).more (Nat.zero_le _)

theorem costs_comprehend (element : Expr) (at_ : Nat) (generators : List Script.Generator) :
    Costs bound (nodesOfGenerators element.nodes generators)
      (r.comprehend scope element at_ generators) := by
  induction generators with
  | nil =>
    refine costs_first (pays.eval scope element) fun v => ?_
    exact costs_quiet fun _ => .step (.change (fun _ => ⟨rfl, rfl⟩) fun _ _ => rfl) fun _ =>
      composed_guarded (Guard.eases_listSize .comprehension at_)
  | cons g rest ih =>
    obtain ⟨target, iter, conditions, isAsync⟩ := g
    refine costs_step (pays.eval scope iter) fun source => costs_foldItems (fun _ v => ?_) _ _
    refine costs_step (costs_assign pays scope target v) fun _ => ?_
    refine costs_step (costs_allTrue pays scope conditions) fun holds => ?_
    split
    · exact costs_first ih fun _ => costs_value _
    · exact (costs_value _).more (Nat.zero_le _)

theorem costs_evalField (e : Expr) (how : Script.Conversion) (spec : Option Expr) :
    Costs bound (e.nodes + nodesOfBound spec) (r.evalField scope e how spec) := by
  refine costs_step (pays.eval scope e) fun v => ?_
  refine costs_last (costs_quiet fun _ => composed_guarded (Guard.eases_textSize v)) fun _ => ?_
  refine costs_last (costs_quiet fun _ => composed_convert how v) fun v => ?_
  have rest : ∀ spec : String, Costs bound 0 (do
      guarded fun l _ => Guard.formatSpec l spec
      return Value.str (← ask fun h => v.formatted h spec)) :=
    fun spec => costs_quiet fun _ => .step (composed_guarded (Guard.eases_formatSpec spec)) fun _ =>
      .step (composed_ask _) fun _ => .value _
  cases spec with
  | none => exact rest ""
  | some e =>
    refine costs_first (pays.eval scope e) fun v => ?_
    exact costs_last (costs_quiet fun _ => composed_toText v) rest

theorem costs_evalExpr (e : Expr) :
    Costs bound e.nodes (enter >>= fun _ => r.evalExpr scope e) := by
  cases e with
  | const c => exact costs_enter (costs_value _)
  | name word line => exact costs_enter (costs_lookUp scope word)
  | list items =>
    refine costs_enter (costs_first (costs_each items (pays.eval scope)) fun vs => ?_)
    exact costs_quiet fun _ => composed_newList _
  | tuple items =>
    refine costs_enter (costs_first (costs_each items (pays.eval scope)) fun vs => ?_)
    exact costs_quiet fun _ => composed_own _
  | dict entries line =>
    refine costs_enter (costs_first (costs_evalEntries pays scope entries _) fun d => ?_)
    exact costs_quiet fun _ => composed_newDict d
  | binary left op right =>
    refine costs_enter (costs_step (pays.eval scope left) fun a => ?_)
    exact costs_first (pays.eval scope right) fun b => costs_operate op a b
  | unary op operand =>
    refine costs_enter (costs_first (pays.eval scope operand) fun v => ?_)
    exact costs_quiet fun _ => composed_negated op v
  | allOf operands => exact costs_enter (costs_evalUntil pays scope false operands _)
  | anyOf operands => exact costs_enter (costs_evalUntil pays scope true operands _)
  | compare left links =>
    refine costs_enter (costs_step (pays.eval scope left) fun v => ?_)
    exact costs_evalLinks pays scope links v
  | conditional test body orelse =>
    refine costs_enter (costs_step (pays.eval scope test) fun v => ?_)
    refine costs_last (costs_isTrue v) fun holds => ?_
    split
    · exact (pays.eval scope body).more (Nat.le_add_right _ _)
    · exact (pays.eval scope orelse).more (Nat.le_add_left _ _)
  | call callee args keywords line =>
    refine costs_enter (costs_step (costs_evalCallee pays scope callee) fun c => ?_)
    exact costs_first (costs_evalArguments pays scope args keywords) fun given =>
      costs_call pays c given
  | subscript container key =>
    refine costs_enter (costs_step (pays.eval scope container) fun c => ?_)
    refine costs_first (costs_evalKey pays scope key) fun k => ?_
    exact costs_quiet fun _ => .step (composed_ask _) composed_keep
  | listComp element generators =>
    refine costs_enter (costs_last (costs_quiet fun _ => .look _) fun at_ => ?_)
    refine costs_last (costs_quiet fun _ => composed_newList _) fun result => ?_
    refine costs_last (costs_newFrame _) fun inner => ?_
    exact costs_first (costs_comprehend pays inner element at_ generators) fun _ => costs_value _
  | template shown =>
    refine costs_enter (costs_first (costs_each shown fun x => ?_) fun vs => ?_)
    · refine costs_first (pays.eval scope x) fun v => ?_
      exact costs_quiet fun _ => .step (composed_toText v) fun _ => .value _
    · exact costs_quiet fun _ => .step (composed_joinTexts "" vs) fun _ => .value _
  | field value how spec => exact costs_enter (costs_evalField pays scope value how spec)
  | «attribute» | slice =>
    exact costs_enter ((costs_stop _).more (Nat.zero_le _))
  | unsupported what line => exact costs_enter (costs_stop _)

theorem costs_define (name : String) (params : List String) (defaults : List Expr)
    (body : List Stmt) (line : Nat) (small : ∀ s ∈ body, s.nodes ≤ bound) :
    Costs bound (nodesOfAll defaults) (r.define scope name params defaults body line) := by
  refine costs_first (costs_each defaults (pays.eval scope)) fun vs => ?_
  refine costs_last (costs_newClosure small) fun v => ?_
  exact costs_quiet fun _ => .bind trivial name v

theorem costs_assigns (targets : List Expr) (v : Value) :
    Costs bound (nodesOfAll targets) (forIn targets PUnit.unit fun target _ => do
      r.assign scope target v
      return ForInStep.yield PUnit.unit) := by
  induction targets with
  | nil => exact costs_value _
  | cons e rest ih =>
    simp only [List.forIn_cons, bind_assoc, pure_bind]
    exact costs_step (costs_assign pays scope e v) fun _ => ih

theorem costs_execStmt (s : Stmt) (small : s.nodes ≤ bound) :
    Costs bound 0 (enter >>= fun _ => r.execStmt scope s) := by
  have block : ∀ body, nodesOfBlock body ≤ s.nodes → Costs bound 0 (r.block scope body) :=
    fun body fits => costs_block pays scope body fun s member =>
      Nat.le_trans (Script.nodes_mem member) (Nat.le_trans fits small)
  cases s with
  | funcDef name params defaults body plain decorated line =>
    simp only [Stmt.nodes] at small
    have smallBody : ∀ s ∈ body, s.nodes ≤ bound := fun s member => by
      have smaller := Script.nodes_mem member
      omega
    have defines := costs_define pays scope name params defaults body line smallBody
    exact costs_stmt (costs_first defines fun _ => costs_value _) (by omega)
  | giveBack value line =>
    exact costs_stmt (costs_first (costs_evalBound pays scope value) fun _ => costs_value _) small
  | pass | leave | next => exact costs_stmt (costs_value _) small
  | expr e => exact costs_stmt (costs_first (pays.eval scope e) fun _ => costs_value _) small
  | assign targets value =>
    refine costs_stmt (costs_step (pays.eval scope value) fun v => ?_) small
    exact costs_first (costs_assigns pays scope targets v) fun _ => costs_value _
  | augAssign target op value line =>
    refine costs_stmt (costs_step (pays.eval scope value) fun v => ?_) small
    exact costs_first (costs_augment pays scope op v target) fun _ => costs_value _
  | branch test body orelse =>
    simp only [Stmt.nodes] at small block
    refine costs_stmt (costs_first (pays.eval scope test) fun v => ?_) (by omega)
    refine costs_last (costs_isTrue v) fun holds => ?_
    split
    · exact block body (by omega)
    · exact block orelse (by omega)
  | whileLoop test body orelse =>
    simp only [Stmt.nodes] at small block
    have tests : Costs bound test.nodes (do isTrue (← r.eval scope test)) :=
      costs_first (pays.eval scope test) costs_isTrue
    refine costs_stmt (costs_first (costs_repeatWhile tests (block body (by omega))) fun flow => ?_)
      (by omega)
    exact costs_thenElse flow (block orelse (by omega))
  | forLoop target iter body orelse =>
    simp only [Stmt.nodes] at small block
    have visits : ∀ (_ : Flow) v, Costs bound target.nodes (do
        r.assign scope target v
        return Rules.round (← r.block scope body)) := fun _ v =>
      costs_first (costs_assign pays scope target v) fun _ =>
        costs_first (block body (by omega)) fun _ => costs_value _
    have loops : ∀ source, Costs bound target.nodes (do
        let flow ← foldItems (fun _ v => do
          r.assign scope target v
          return Rules.round (← r.block scope body)) source .normal
        thenElse flow (r.block scope orelse)) := fun source =>
      costs_first (costs_foldItems visits source .normal) fun flow =>
        costs_thenElse flow (block orelse (by omega))
    exact costs_stmt (costs_step (pays.eval scope iter) loops) (by omega)
  | unsupported what line => exact costs_stmt (costs_stop _) small

end

theorem pays_rules (bound room : Nat) : (rules room).Pays bound := by
  induction room with
  | zero => exact ⟨fun _ _ => (costs_stop _).more (Nat.zero_le _), fun _ _ _ => costs_stop _⟩
  | succ room ih => exact ⟨costs_evalExpr ih, costs_execStmt ih⟩

end Run

namespace Session
open Run

variable {α : Type} {p : Script.Program}

-- A run counts one step beyond the ceiling at most, and enters no more nodes and rounds than the
-- program has nodes, for each step.
structure Took (p : Script.Program) (l : Limits) (m m' : Machine) : Prop where
  steps : m'.steps ≤ max m.steps l.maxSteps.toNat + 1
  work : m'.work ≤ m.work + p.nodes * (m'.steps - m.steps)
  total : m'.work ≤ m.work + p.nodes * (l.maxSteps.toNat + 1)

-- Steps are no reason to stop but for one that was counted beyond the ceiling.
def Ends (p : Script.Program) (l : Limits) (m : Machine) : EStateM.Result Fault Machine α → Prop
  | .ok _ m' => Took p l m m'
  | .error e m' => Took p l m m' ∧ ∀ n, e = .limit (.steps n) → n = l.maxSteps ∧ l.maxSteps < m'.steps

theorem took_spends {l : Limits} {m m' : Machine} (spends : Spends p.nodes 0 m m')
    (steps : m'.steps ≤ max m.steps l.maxSteps.toNat + 1) : Took p l m m' := by
  have work := spends.works
  obtain ⟨more, same⟩ := Nat.exists_eq_add_of_le spends.counts
  rw [same, Nat.mul_add] at work
  have fewer : more ≤ l.maxSteps.toNat + 1 := by omega
  have paid := Nat.mul_le_mul_left p.nodes fewer
  refine ⟨steps, ?_, by omega⟩
  rw [same, Nat.add_sub_cancel_left]
  omega

theorem ends_run {x : Run α} (costs : Costs p.nodes 0 x) (paces : Paces (.free True) x) (l : Limits)
    {m : Machine} (holds : m.heap.Holds (.small p.nodes)) : Ends p l m (x l m) := by
  have spent := costs (Nat.lt_of_lt_of_le Nat.zero_lt_one (Nat.le_add_right _ _)) l m holds
  have paced := paces l m
  cases ended : x l m with
  | ok a m' =>
    rw [ended] at spent paced
    have allowed := paced.2
    exact took_spends spent (by omega)
  | error e m' =>
    rw [ended] at spent paced
    have stopped := paced.2.1
    exact ⟨took_spends spent (by omega), paced.2.2⟩

-- Functions are parts of the program.
theorem admits_small (p : Script.Program) :
    ({ Licence.small p.nodes with evaluates := True } : Licence).Admits p where
  evaluates := trivial
  covered := fun _ => Script.stmtCovered_any _
  inner := fun small member => Nat.le_trans (Script.nodes_inner member) small
  scopes := fun _ => trivial
  body := fun _ member => Nat.le_trans (Script.nodes_mem member) (Nat.le_add_left _ _)

theorem reached_small {s : Session} (reached : Reached p s) :
    s.machine.heap.Holds (.small p.nodes) := by
  have holds := reached_holds (admits_small p) reached
  exact ⟨holds.closures, holds.scopes⟩

-- Whatever a session is asked for, and whatever the host puts into lists, mappings and scopes, it
-- comes to an end; and it would if nodes and calls could nest to any other depth.
theorem runs_end (p : Script.Program) :
    (∀ room l, Ends p l {} ((Run.rules room).block moduleScope p.body l {})) ∧
      ∀ s, Reached p s → ∀ at_,
        (∀ room args, Ends p s.limits s.machine
          ((Run.rules room).callFunction at_ args s.limits s.machine)) ∧
        ∀ args, Ends p s.limits s.machine (callBody at_ args s.limits s.machine) := by
  have calls : ∀ room at_ args, Costs p.nodes 0 ((Run.rules room).callFunction at_ args) ∧
      Paces (.free True) ((Run.rules room).callFunction at_ args) := fun room at_ args =>
    ⟨costs_callFunction (pays_rules p.nodes room) at_ args,
      paces_free (composed_callFunction room at_ args)⟩
  refine ⟨fun room l => ?_, fun s reached at_ => ⟨fun room args => ?_, fun args => ?_⟩⟩
  · have small := (admits_small p).body
    have holds := initial_holds (admits_small p)
    exact ends_run (costs_block (pays_rules p.nodes room) moduleScope p.body small)
      (paces_free (composed_block room moduleScope p.body)) l ⟨holds.closures, holds.scopes⟩
  · obtain ⟨costs, paces⟩ := calls room at_ args
    exact ends_run costs paces s.limits (reached_small reached)
  · obtain ⟨costs, paces⟩ := calls maxRunDepth at_ ⟨args, []⟩
    refine ends_run ?_ ?_ s.limits (reached_small reached)
    · exact costs_last (costs_quiet fun _ => .checkTime) fun _ => costs_flushed costs
    · exact paces_step paces_checkTime fun _ => paces_flushed paces

-- A list that contains itself, and a loop over it that makes it longer as it goes.
def endlessRing : Script.Program :=
  ⟨[.funcDef "spin" [] []
      [.assign [.name "ring" 2] (.list []),
      .expr (.call (.attribute (.name "ring" 3) "append" 3) [.name "ring" 3] [] 3),
      .forLoop (.name "link" 4) (.name "ring" 4)
        [.expr (.call (.attribute (.name "ring" 5) "append" 5) [.name "link" 5] [] 5)] []]
      true false 1], rfl⟩

theorem endlessRing_ends :
    ∃ s m, start endlessRing { maxSteps := 20 } = .ok s ∧ Reached endlessRing s ∧
      callBody 0 [] s.limits s.machine = .error (.limit (.steps s.limits.maxSteps)) m ∧
      m.steps = 21 ∧ Took endlessRing s.limits s.machine m := by
  have spins : ((start endlessRing { maxSteps := 20 }).toOption.bind fun s =>
      (stopped? (callBody 0 [] s.limits s.machine)).map fun end_ => (end_.1, end_.2.steps)) =
      some (.limit (.steps 20), 21) := by decide +kernel
  obtain ⟨s, started, called⟩ := Option.bind_eq_some_iff.mp spins
  obtain ⟨end_, ended, same⟩ := Option.map_eq_some_iff.mp called
  obtain ⟨why, steps⟩ := Prod.mk.inj same
  have reached : Reached endlessRing s := .started (toOption_some started)
  have ends := ((runs_end endlessRing).2 s reached 0).2 []
  have stopped := stopped_some ended
  rw [why] at stopped
  rw [stopped] at ends
  obtain ⟨limit, -⟩ := ends.2 20 rfl
  exact ⟨s, end_.2, toOption_some started, reached, limit ▸ stopped, steps, ends.1⟩

end Session
end ScriptArena
