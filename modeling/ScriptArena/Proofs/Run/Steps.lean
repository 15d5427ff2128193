import ScriptArena.Proofs.Run.Composed
import ScriptArena.Proofs.Run.Operations

namespace ScriptArena.Run

variable {t : Licence} {α β σ τ : Type}

-- How a run counts, from one machine to the next. What evaluates nothing only works where it counts.
structure Counted (t : Licence) (m m' : Machine) : Prop where
  counts : m.steps ≤ m'.steps
  works : ¬ t.evaluates → m'.work + m.steps ≤ m.work + m'.steps

def Paced (t : Licence) (l : Limits) (m : Machine) : EStateM.Result Fault Machine α → Prop
  | .ok _ m' => Counted t m m' ∧ (m.steps < m'.steps → m'.steps ≤ l.maxSteps)
  | .error e m' => Counted t m m' ∧ (m'.steps ≤ l.maxSteps + 1 ∨ m'.steps ≤ m.steps + 1) ∧
      ∀ n, e = .limit (.steps n) → n = l.maxSteps ∧ l.maxSteps < m'.steps

def Paces (t : Licence) (x : Run α) : Prop := ∀ l m, Paced t l m (x l m)

theorem Counted.refl (m : Machine) : Counted t m m := ⟨Nat.le_refl _, fun _ => Nat.le_refl _⟩

theorem Counted.trans {m mid m' : Machine} (one : Counted t m mid) (two : Counted t mid m') :
    Counted t m m' := by
  have steps := one.counts
  have steps' := two.counts
  refine ⟨by omega, fun quiet => ?_⟩
  have work := one.works quiet
  have work' := two.works quiet
  omega

-- After a first part that went through.
theorem Paced.after {l : Limits} {m mid : Machine} {r : EStateM.Result Fault Machine α}
    (counted : Counted t m mid) (allowed : m.steps < mid.steps → mid.steps ≤ l.maxSteps)
    (rest : Paced t l mid r) : Paced t l m r := by
  have steps := counted.counts
  cases r with
  | ok a m' =>
    have steps' := rest.1.counts
    refine ⟨counted.trans rest.1, fun more => ?_⟩
    by_cases later : mid.steps < m'.steps
    · exact rest.2 later
    · have same : m'.steps = mid.steps := by omega
      rw [same] at more ⊢
      exact allowed more
  | error e m' =>
    refine ⟨counted.trans rest.1, ?_, rest.2.2⟩
    rcases rest.2.1 with within | next
    · exact .inl within
    · by_cases more : m.steps < mid.steps
      · have within := allowed more
        exact .inl (by omega)
      · exact .inr (by omega)

theorem paced_bind {x : Run α} {f : α → Run β} {l : Limits} {m : Machine}
    (first : Paced t l m (x l m))
    (rest : ∀ a mid, x l m = .ok a mid → Paced t l mid (f a l mid)) :
    Paced t l m ((x >>= f) l m) := by
  rw [run_bind]
  cases ended : x l m with
  | error e mid =>
    rw [ended] at first
    exact first
  | ok a mid =>
    rw [ended] at first
    exact .after first.1 first.2 (rest a mid ended)

theorem paces_step {x : Run α} {f : α → Run β} (first : Paces t x) (rest : ∀ a, Paces t (f a)) :
    Paces t (x >>= f) :=
  fun l m => paced_bind (first l m) fun a mid _ => rest a l mid

-- What leaves the counts alone.
theorem paces_value (a : α) : Paces t (pure a) :=
  fun _ m => ⟨.refl m, fun more => absurd more (Nat.lt_irrefl _)⟩

theorem paced_ok {l : Limits} {m m' : Machine} (a : α) (steps : m'.steps = m.steps)
    (work : m'.work = m.work) : Paced t l m (.ok a m') :=
  ⟨⟨by omega, fun _ => by omega⟩, by omega⟩

theorem paced_error {l : Limits} {m : Machine} {e : Fault} (other : ∀ n, e ≠ .limit (.steps n)) :
    Paced t l m (.error e m : EStateM.Result Fault Machine α) :=
  ⟨.refl m, .inr (Nat.le_succ _), fun n same => absurd same (other n)⟩

theorem stops_steps {e : Fault} (may : t.Stops e) (n : Int) : e ≠ .limit (.steps n) := by
  rintro rfl
  exact may

theorem paces_guarded (g : Limits → Heap → Except Trouble α) : Paces t (guarded g) := by
  intro l m
  rw [run_guarded]
  cases g l m.heap with
  | ok a => exact paced_ok a rfl rfl
  | error e => exact paced_error (stops_steps (stops_trouble (t := t) e))

theorem paces_checkTime : Paces t checkTime := by
  intro l m
  rw [run_checkTime]
  cases l.time with
  | ample => exact paced_ok _ rfl rfl
  | spent seconds => exact paced_error nofun

theorem paces_checkDepth : Paces t checkDepth := by
  intro l m
  rw [run_checkDepth]
  split
  · exact paced_error nofun
  · exact paced_ok _ rfl rfl

theorem paces_emit (made : Made) : Paces t (emit made) := by
  intro l m
  rw [run_emit]
  split
  · exact paced_ok _ rfl rfl
  · split
    · exact paced_ok _ rfl rfl
    · exact paced_error nofun

-- A step and the work that it pays for. The step is counted even where it is refused.
theorem counted_round (m : Machine) : Counted t m m.counted.worked where
  counts := Nat.le_succ _
  works := fun _ => by
    change m.work + 1 + m.steps ≤ m.work + (m.steps + 1)
    omega

theorem counted_counted (m : Machine) : Counted t m m.counted where
  counts := Nat.le_succ _
  works := fun _ => Nat.le_succ _

theorem paces_tick : Paces t tick := by
  intro l m
  have count : m.counted.steps = m.steps + 1 := rfl
  rw [run_tick]
  by_cases beyond : l.maxSteps < m.counted.steps
  · rw [if_pos beyond]
    exact ⟨counted_counted m, .inr (by omega), fun n same => by cases same; exact ⟨rfl, beyond⟩⟩
  · rw [if_neg beyond]
    refine Paced.after (counted_counted m) (fun _ => by omega) ?_
    split
    · exact paces_checkTime l m.counted
    · exact paces_value () l m.counted

theorem tick_ok {l : Limits} {m m' : Machine} {u : Unit} (ran : tick l m = .ok u m') :
    m' = m.counted ∧ m'.steps ≤ l.maxSteps := by
  rw [run_tick] at ran
  split at ran
  · cases ran
  · rename_i allowed
    rw [Int.not_lt] at allowed
    split at ran
    · rw [run_checkTime] at ran
      split at ran
      · cases ran
        exact ⟨rfl, allowed⟩
      · cases ran
    · cases ran
      exact ⟨rfl, allowed⟩

-- The work of a round is paid for by its step.
theorem paces_round {x : Run α} (inner : Paces t x) :
    Paces t (tick >>= fun _ => enter >>= fun _ => x) := by
  intro l m
  rw [run_bind]
  cases ticked : tick l m with
  | error e mid =>
    have refused := paces_tick (t := t) l m
    rw [ticked] at refused
    exact refused
  | ok u mid =>
    obtain ⟨rfl, allowed⟩ := tick_ok ticked
    exact .after (counted_round m) (fun _ => allowed) (inner l m.counted.worked)

section
variable {probe : σ → Run (τ ⊕ α)} {body : τ → Run (σ ⊕ α)}
  (probes : ∀ s, Paces t (probe s)) (bodies : ∀ r, Paces t (body r))
include probes bodies

theorem paces_turn (s : σ) : Paces t (turn probe body s) := by
  refine paces_step (probes s) fun found => ?_
  cases found with
  | inr a => exact paces_value _
  | inl r => exact paces_round (bodies r)

-- A round that leads to another one has counted a step.
theorem turn_steps {s next : σ} {l : Limits} {m m' : Machine}
    (turned : turn probe body s l m = .ok (.inl next) m') :
    m.steps < m'.steps ∧ m'.steps ≤ l.maxSteps := by
  have paced := paces_turn probes bodies s l m
  rw [turned] at paced
  suffices more : m.steps < m'.steps from ⟨more, paced.2 more⟩
  obtain ⟨found, mid, probed, rest⟩ := bind_ok turned
  have before := probes s l m
  rw [probed] at before
  cases found with
  | inr a => cases rest
  | inl r =>
    obtain ⟨u, late, ticked, rest⟩ := bind_ok rest
    obtain ⟨rfl, -⟩ := tick_ok ticked
    have after := bodies r l mid.counted.worked
    have ended : body r l mid.counted.worked = .ok (.inl next) m' := rest
    rw [ended] at after
    have first := before.1.counts
    have last := after.1.counts
    have count : mid.counted.worked.steps = mid.steps + 1 := rfl
    omega

-- There is fuel for a round at least, and for as many as there are steps left.
def Fuelled (l : Limits) (m : Machine) (fuel : Nat) : Prop :=
  0 < fuel ∧ l.maxSteps - m.steps < fuel

omit probes bodies in
theorem fuelled_loop (l : Limits) (m : Machine) :
    Fuelled l m ((l.maxSteps - m.steps).toNat + 1) := by
  constructor <;> omega

omit probes bodies in
theorem Fuelled.next {l : Limits} {m mid : Machine} {fuel : Nat} (fuelled : Fuelled l m (fuel + 1))
    (counted : m.steps < mid.steps ∧ mid.steps ≤ l.maxSteps) : Fuelled l mid fuel := by
  obtain ⟨-, enough⟩ := fuelled
  constructor <;> omega

theorem paced_rounds {fuel : Nat} (s : σ) {l : Limits} {m : Machine} (fuelled : Fuelled l m fuel) :
    Paced t l m (rounds probe body fuel s l m) := by
  induction fuel generalizing s m with
  | zero => exact absurd fuelled.1 (Nat.lt_irrefl 0)
  | succ fuel ih =>
    refine paced_bind (paces_turn probes bodies s l m) fun next mid turned => ?_
    cases next with
    | inr a => exact paces_value a l mid
    | inl next => exact ih next (fuelled.next (turn_steps probes bodies turned))

theorem paces_loop (s : σ) : Paces t (loop probe body s) :=
  fun l m => paced_rounds probes bodies s (fuelled_loop l m)

-- Fuel beyond what is enough changes nothing.
theorem rounds_fuelled {fuel fuel' : Nat} (s : σ) {l : Limits} {m : Machine}
    (fuelled : Fuelled l m fuel) (fuelled' : Fuelled l m fuel') :
    rounds probe body fuel s l m = rounds probe body fuel' s l m := by
  induction fuel generalizing fuel' s m with
  | zero => exact absurd fuelled.1 (Nat.lt_irrefl 0)
  | succ fuel ih =>
    obtain ⟨fuel', rfl⟩ := Nat.exists_eq_succ_of_ne_zero (Nat.ne_of_gt fuelled'.1)
    rw [rounds, run_bind, rounds, run_bind]
    cases turned : turn probe body s l m with
    | error e mid => rfl
    | ok next mid =>
      cases next with
      | inr a => rfl
      | inl next =>
        have counted := turn_steps probes bodies turned
        exact ih next (fuelled.next counted) (fuelled'.next counted)

-- A loop is a round and, if that leads on, the loop again.
theorem loop_eq (s : σ) :
    loop probe body s = turn probe body s >>= fun
      | .inr a => pure a
      | .inl s => loop probe body s := by
  funext l m
  rw [run_loop, rounds, run_bind, run_bind]
  cases turned : turn probe body s l m with
  | error e mid => rfl
  | ok next mid =>
    cases next with
    | inr a => rfl
    | inl next =>
      have counted := turn_steps probes bodies turned
      exact rounds_fuelled probes bodies next ((fuelled_loop l m).next counted) (fuelled_loop l mid)

end

-- The counts of the machine are the same.
structure Alike (m m' : Machine) : Prop where
  steps : m'.steps = m.steps
  work : m'.work = m.work

theorem Alike.refl (m : Machine) : Alike m m := ⟨rfl, rfl⟩

theorem Counted.alike {start begun stopped left : Machine} (counted : Counted t begun stopped)
    (first : Alike start begun) (last : Alike stopped left) : Counted t start left := by
  have steps := counted.counts
  rw [first.steps] at steps
  refine ⟨by rw [last.steps]; exact steps, fun quiet => ?_⟩
  have work := counted.works quiet
  rw [first.steps, first.work] at work
  rw [last.steps, last.work]
  exact work

theorem Paced.leaving {l : Limits} {m begun : Machine} {r : EStateM.Result Fault Machine α}
    {given stopped : Machine → Machine} (paced : Paced t l begun r) (first : Alike m begun)
    (gave : ∀ m, Alike m (given m)) (stops : ∀ m, Alike m (stopped m)) :
    Paced t l m (leaving given stopped r) := by
  cases r with
  | ok a m' =>
    obtain ⟨counted, allowed⟩ := paced
    rw [first.steps, ← (gave m').steps] at allowed
    exact ⟨counted.alike first (gave m'), allowed⟩
  | error e m' =>
    obtain ⟨counted, stopped⟩ := paced
    rw [first.steps, ← (stops m').steps] at stopped
    exact ⟨counted.alike first (stops m'), stopped⟩

theorem paces_deeper {x : Run α} (inner : Paces t x) : Paces t (deeper x) := by
  intro l m
  rw [run_deeper]
  exact (inner l _).leaving ⟨rfl, rfl⟩ (fun _ => ⟨rfl, rfl⟩) fun _ => ⟨rfl, rfl⟩

theorem paces_undoing {x : Run α} (undo : Heap → Heap) (inner : Paces t x) :
    Paces t (undoing undo x) := by
  intro l m
  rw [run_undoing]
  exact (inner l m).leaving (.refl m) .refl fun _ => ⟨rfl, rfl⟩

theorem paces_flushed {x : Run α} (inner : Paces t x) : Paces t (flushed x) := by
  intro l m
  rw [run_flushed]
  exact (inner l m).leaving (.refl m) (fun _ => ⟨rfl, rfl⟩) fun _ => ⟨rfl, rfl⟩

theorem paces_free {evaluates : Prop} {x : Run α} (composed : Composed (.free evaluates) x) :
    Paces (.free evaluates) x := by
  induction composed with
  | value a => exact paces_value a
  | step _ _ first rest => exact paces_step first rest
  | stop may => exact fun l m => paced_error (stops_steps may)
  | look | change | allocate | define | bind => exact fun l m => paced_ok _ rfl rfl
  | inspect _ rest => exact fun l m => rest _ (fun _ _ => trivial) l m
  | guarded => exact paces_guarded _
  | opened _ _ rests =>
    exact fun l m => paced_bind (paced_ok _ rfl rfl) fun i mid _ => rests i trivial l mid
  | tick => exact paces_tick
  | enter may =>
    exact fun l m => ⟨⟨Nat.le_refl _, fun quiet => absurd may quiet⟩,
      fun more => absurd more (Nat.lt_irrefl _)⟩
  | checkTime => exact paces_checkTime
  | checkDepth => exact paces_checkDepth
  | emit made => exact paces_emit made
  | loop s _ _ probes bodies => exact paces_loop probes bodies s
  | called _ inner => exact paces_step paces_checkDepth fun _ => paces_deeper inner
  | undoing _ _ _ inner => exact paces_undoing _ inner

end ScriptArena.Run
