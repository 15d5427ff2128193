import ScriptArena.Proofs.Progress.Schedules
import ScriptArena.Proofs.Service.Turns

namespace ScriptArena.Service
open Arena

namespace Stage

-- Nobody is in the middle of anything.
def quiet (l : GameLoop) : Stage := { loop := l }

variable {s : Stage}

theorem run_mails (moves : List Progress.Move) (s : Stage) :
    s.run (moves.map .mail) =
      let traffic := (Progress.Traffic.run moves ⟨s.loop.engine.tracker, s.flights⟩).1
      { s with loop.engine.tracker := traffic.tracker, flights := traffic.flights } := by
  induction moves generalizing s with
  | nil => rfl
  | cons m rest ih => exact ih (s.mail m)

end Stage

namespace GameLoop
open Stage

-- Turns lead from the one to the other.
def Reaches (l m : GameLoop) : Prop := ∃ turns, (quiet l).run turns = quiet m

variable {l m n : GameLoop} {instant : Time}

theorem Reaches.refl (l : GameLoop) : Reaches l l := ⟨[], rfl⟩

theorem Reaches.trans (lm : Reaches l m) (mn : Reaches m n) : Reaches l n := by
  obtain ⟨first, there⟩ := lm
  obtain ⟨second, on⟩ := mn
  exact ⟨first ++ second, by rw [run_append, there, on]⟩

-- Whatever the engine has told has been heard.
def Heard (l : GameLoop) : Prop := ∀ n ∈ l.engine.notices, isOwn n = false

theorem heard_act {α : Type} (action : Engine → α × Engine) (l : GameLoop) : (l.act action).2.Heard := by
  intro n inside
  rw [act_loop] at inside
  exact Bool.not_eq_true' _ ▸ (List.mem_filter.mp inside).2

-- A flush tells nobody anything.
theorem flush_loop (heard : l.Heard) :
    (l.act Engine.flush).2 = { l with engine.tracker := l.engine.tracker.flush.2 } := by
  have none : l.engine.notices.filter isOwn = [] :=
    List.filter_eq_nil_iff.mpr fun n inside => by simp [heard n inside]
  have all : l.engine.notices.filter (!isOwn ·) = l.engine.notices :=
    List.filter_eq_self.mpr fun n inside => by simp [heard n inside]
  rw [act_loop]
  simp [Engine.flush, none, all]

theorem reaches_arm (l : GameLoop) : Reaches l l.arm := ⟨[.arm], rfl⟩

theorem broadcast_running (works : l.failures = 0) (running : l.running = true) :
    l.broadcast.2 = { l with broadcasts := l.broadcasts ++ [l.engine.snapshot] } := by
  simp [broadcast, works, running]

theorem publishChange_running (heard : l.Heard) (works : l.failures = 0) (running : l.running = true)
    (changed : l.changed = true) :
    l.publishChange =
      let flushed := { l with changed := false, engine.tracker := l.engine.tracker.flush.2 }
      { flushed with broadcasts := l.broadcasts ++ [flushed.engine.snapshot] } := by
  have cleared : Heard { l with changed := false } := heard
  unfold publishChange publish
  rw [if_pos (by simp [running, changed]), flush_loop cleared]
  exact broadcast_running works running

theorem publishChange_idle (idle : ¬ (l.running = true ∧ l.changed = true)) :
    l.publishChange = l := by
  rw [publishChange, if_neg (by simpa using idle)]

theorem reaches_publishChange (heard : l.Heard) (works : l.failures = 0) :
    Reaches l l.publishChange := by
  by_cases ready : l.running = true ∧ l.changed = true
  · obtain ⟨running, changed⟩ := ready
    obtain ⟨moves, -, ends⟩ := Progress.Tracker.flush_ends l.engine.tracker []
    rw [publishChange_running heard works running changed]
    refine ⟨.collect :: (moves.map .mail ++ [.snap, .send]), ?_⟩
    have collected : (quiet l).step .collect =
        ({ quiet { l with changed := false } with publisher := .flushing } : Stage).mail .flush := by
      simp [quiet, step, collect, changed]
    have sent : ((quiet l).step .collect).run (moves.map .mail) =
        { quiet { l with changed := false, engine.tracker := l.engine.tracker.flush.2 } with
          publisher := .flushing } := by
      rw [collected, run_mails]
      simp only [Stage.mail, quiet]
      rw [ends]
    change ((quiet l).step .collect).run (moves.map .mail ++ [.snap, .send]) = _
    rw [run_append, sent]
    rfl
  · rw [publishChange_idle ready]
    exact .refl l

theorem arm_engine (l : GameLoop) : l.arm.engine = l.engine ∧ l.arm.failures = l.failures := by
  simp only [arm]
  split
  · split
    · exact ⟨rfl, rfl⟩
    · exact ⟨rfl, rfl⟩
  · exact ⟨rfl, rfl⟩

theorem reaches_settle (heard : l.Heard) (works : l.failures = 0) : Reaches l l.settle := by
  obtain ⟨engine, failures⟩ := l.arm_engine
  have armed : l.arm.Heard := by
    unfold Heard
    rwa [engine]
  exact l.reaches_arm.trans (reaches_publishChange armed (failures.trans works))

-- The timer wakes up in time, and then everybody takes a turn.
theorem stepCountdown_wake {epoch : Nat} {due : Time} (sleeping : l.countdown = .sleeping epoch due)
    (late : due ≤ l.now) : l.stepCountdown = l.wake.settle := by
  unfold stepCountdown wake
  rw [sleeping]
  dsimp only
  rw [if_neg (Nat.not_lt.mpr late)]
  split
  · rfl
  · rfl

theorem heard_wake (heard : l.Heard) : l.wake.Heard ∧ l.wake.failures = l.failures := by
  have failures : (l.act fun e => ((), e.countdownTick)).2.failures = l.failures := by rw [act_loop]
  have wakes := l.wakes_wake
  generalize l.wake = m at wakes
  cases wakes with
  | idle | drop => exact ⟨heard, rfl⟩
  | stop | again => exact ⟨l.heard_act fun e => ((), e.countdownTick), failures⟩

theorem reaches_later (later : l.now ≤ instant) : Reaches l { l with now := instant } := by
  refine ⟨[.elapse (instant - l.now)], ?_⟩
  have there : l.now + (instant - l.now) = instant := Nat.add_sub_cancel' later
  simp [run, step, quiet, there]

-- How often a timer comes round before an instant.
def firings (instant due : Time) (span : Time) : Nat :=
  if due < instant then (instant - due - 1) / span + 1 else 0

theorem firings_next {due span : Time} (positive : 0 < span) (early : due < instant) :
    firings instant (due + span) span + 1 = firings instant due span := by
  unfold firings
  rw [if_pos early]
  by_cases again : due + span < instant
  · have split : instant - due - 1 = instant - (due + span) - 1 + span := by
      unfold Time at *
      omega
    rw [if_pos again, split, Nat.add_div_right _ positive]
  · have less : instant - due - 1 < span := by
      unfold Time at *
      omega
    rw [if_neg again, Nat.div_eq_of_lt less]

theorem firings_later {due due' span : Time} (later : due ≤ due') :
    firings instant due' span ≤ firings instant due span := by
  unfold firings
  split
  · rename_i early'
    rw [if_pos (Nat.lt_of_le_of_lt later early')]
    refine Nat.succ_le_succ (Nat.div_le_div_right ?_)
    unfold Time at *
    omega
  · exact Nat.zero_le _

theorem firings_bound {now due : Time} (later : now ≤ due) (instant span : Time) :
    firings instant due span ≤ (instant - now) / span + 1 := by
  refine Nat.le_trans (firings_later later) ?_
  unfold firings
  split
  · exact Nat.succ_le_succ (Nat.div_le_div_right (Nat.sub_le _ _))
  · exact Nat.zero_le _

-- When the countdown timer may be due: a timer that waits may fall asleep at once.
def timerDue (l : GameLoop) : Time :=
  match l.countdown with
  | .waiting => l.now + l.countdownSpan
  | .sleeping _ due => due

def remaining (instant : Time) (l : GameLoop) : Nat :=
  firings instant l.arenaDue l.tickSpan + firings instant l.timerDue l.countdownSpan

-- Nobody is late, and nothing is left unheard.
structure Orderly (l : GameLoop) : Prop where
  works : l.failures = 0
  heard : l.Heard
  tickSpan : 0 < l.tickSpan
  countdownSpan : 0 < l.countdownSpan
  arena : l.running = true → l.now ≤ l.arenaDue
  timer : l.running = true → l.now ≤ l.timerDue

-- What the engine and the publisher have nothing to do with.
structure SameClocks (l m : GameLoop) : Prop where
  now : m.now = l.now
  running : m.running = l.running
  tickSpan : m.tickSpan = l.tickSpan
  countdownSpan : m.countdownSpan = l.countdownSpan
  failures : m.failures = l.failures
  arena : m.arenaDue = l.arenaDue
  timer : m.timerDue = l.timerDue

theorem SameClocks.trans (lm : SameClocks l m) (mn : SameClocks m n) : SameClocks l n :=
  ⟨mn.now.trans lm.now, mn.running.trans lm.running, mn.tickSpan.trans lm.tickSpan,
    mn.countdownSpan.trans lm.countdownSpan, mn.failures.trans lm.failures, mn.arena.trans lm.arena,
    mn.timer.trans lm.timer⟩

theorem sameClocks_act {α : Type} (action : Engine → α × Engine) (l : GameLoop) :
    SameClocks l (l.act action).2 := by
  rw [act_loop]
  exact ⟨rfl, rfl, rfl, rfl, rfl, rfl, rfl⟩

theorem sameClocks_arm (l : GameLoop) : SameClocks l l.arm := by
  simp only [arm]
  split
  · rename_i ready
    have waiting : l.countdown = .waiting := by
      simp only [Bool.and_eq_true, decide_eq_true_eq] at ready
      exact ready.2
    have due : l.now + l.countdownSpan = l.timerDue := by simp [timerDue, waiting]
    split
    · exact ⟨rfl, rfl, rfl, rfl, rfl, rfl, due⟩
    · exact ⟨rfl, rfl, rfl, rfl, rfl, rfl, rfl⟩
  · exact ⟨rfl, rfl, rfl, rfl, rfl, rfl, rfl⟩

theorem sameClocks_publishChange (works : l.failures = 0) : SameClocks l l.publishChange := by
  unfold publishChange publish
  split
  · rename_i ready
    have flushed := sameClocks_act Engine.flush { l with changed := false }
    have running : l.running = true := by
      simp only [Bool.and_eq_true] at ready
      exact ready.1
    rw [broadcast_running (flushed.failures.trans works) (flushed.running.trans running)]
    exact ⟨flushed.now, flushed.running, flushed.tickSpan, flushed.countdownSpan, flushed.failures,
      flushed.arena, flushed.timer⟩
  · exact ⟨rfl, rfl, rfl, rfl, rfl, rfl, rfl⟩

theorem heard_publishChange (heard : l.Heard) (works : l.failures = 0) : l.publishChange.Heard := by
  by_cases ready : l.running = true ∧ l.changed = true
  · rw [publishChange_running heard works ready.1 ready.2]
    exact heard
  · rw [publishChange_idle ready]
    exact heard

theorem SameClocks.orderly (same : SameClocks l m) (heard : m.Heard) (orderly : l.Orderly) :
    m.Orderly where
  works := same.failures.trans orderly.works
  heard := heard
  tickSpan := same.tickSpan ▸ orderly.tickSpan
  countdownSpan := same.countdownSpan ▸ orderly.countdownSpan
  arena running := by
    rw [same.now, same.arena]
    exact orderly.arena (same.running ▸ running)
  timer running := by
    rw [same.now, same.timer]
    exact orderly.timer (same.running ▸ running)

theorem SameClocks.remaining (same : SameClocks l m) (instant : Time) :
    m.remaining instant = l.remaining instant := by
  unfold GameLoop.remaining
  rw [same.arena, same.tickSpan, same.timer, same.countdownSpan]

theorem settle_orderly (orderly : l.Orderly) : SameClocks l l.settle ∧ l.settle.Orderly := by
  have armed := l.sameClocks_arm
  have heard : l.arm.Heard := by
    unfold Heard
    rw [l.arm_engine.1]
    exact orderly.heard
  have works := armed.failures.trans orderly.works
  have same := armed.trans (sameClocks_publishChange works)
  exact ⟨same, same.orderly (heard_publishChange heard works) orderly⟩

-- One timer has come round, and then everybody has taken a turn.
structure Round (instant due : Time) (l m : GameLoop) : Prop where
  reaches : Reaches l m
  orderly : m.Orderly
  running : m.running = true
  now : m.now = due
  fewer : m.remaining instant < l.remaining instant

theorem Round.settle {due : Time} (reaches : Reaches l m) (orderly : m.Orderly)
    (running : m.running = true) (now : m.now = due)
    (fewer : m.remaining instant < l.remaining instant) : Round instant due l m.settle :=
  have ⟨same, after⟩ := settle_orderly orderly
  { reaches := reaches.trans (reaches_settle orderly.heard orderly.works)
    orderly := after
    running := same.running.trans running
    now := same.now.trans now
    fewer := by rwa [same.remaining] }

theorem round_tickArena (orderly : l.Orderly) (running : l.running = true)
    (early : l.arenaDue < instant) (here : l.now = l.arenaDue) : Round instant l.now l l.tickArena := by
  have same := sameClocks_act Engine.tick l
  refine .settle ⟨[.arena], rfl⟩ ⟨?_, l.heard_act Engine.tick, ?_, ?_, ?_, ?_⟩
    (same.running.trans running) same.now ?_
  · exact same.failures.trans orderly.works
  · exact same.tickSpan ▸ orderly.tickSpan
  · exact same.countdownSpan ▸ orderly.countdownSpan
  · intro _
    change (l.act Engine.tick).2.now ≤ l.arenaDue + l.tickSpan
    rw [same.now, here]
    exact Nat.le_add_right _ _
  · intro _
    change (l.act Engine.tick).2.now ≤ (l.act Engine.tick).2.timerDue
    rw [same.now, same.timer]
    exact orderly.timer running
  · have next := firings_next orderly.tickSpan early
    change firings instant (l.arenaDue + l.tickSpan) (l.act Engine.tick).2.tickSpan +
      firings instant (l.act Engine.tick).2.timerDue (l.act Engine.tick).2.countdownSpan < _
    rw [same.tickSpan, same.timer, same.countdownSpan, remaining, ← next]
    omega

-- The timer has a whole span before it again.
theorem wake_clocks {epoch : Nat} {due : Time} (sleeping : l.countdown = .sleeping epoch due)
    (late : due ≤ l.now) :
    SameClocks { l with countdown := .sleeping epoch (l.now + l.countdownSpan) } l.wake := by
  have same := sameClocks_act (fun e => ((), e.countdownTick)) l
  have wakes := l.wakes_wake
  generalize l.wake = m at wakes
  cases wakes with
  | idle early => exact absurd (early epoch due sleeping) (Nat.not_lt.mpr late)
  | drop => exact ⟨rfl, rfl, rfl, rfl, rfl, rfl, rfl⟩
  | stop =>
    refine ⟨same.now, same.running, same.tickSpan, same.countdownSpan, same.failures, same.arena, ?_⟩
    exact congrArg₂ (· + ·) same.now same.countdownSpan
  | again =>
    refine ⟨same.now, same.running, same.tickSpan, same.countdownSpan, same.failures, same.arena, ?_⟩
    exact congrArg₂ (· + ·) same.now same.countdownSpan

theorem round_stepCountdown (orderly : l.Orderly) (running : l.running = true) {epoch : Nat}
    (early : l.now < instant) (sleeping : l.countdown = .sleeping epoch l.now) :
    Round instant l.now l l.stepCountdown := by
  have same := wake_clocks sleeping (Nat.le_refl _)
  rw [stepCountdown_wake sleeping (Nat.le_refl _)]
  have begun : Orderly { l with countdown := .sleeping epoch (l.now + l.countdownSpan) } :=
    ⟨orderly.works, orderly.heard, orderly.tickSpan, orderly.countdownSpan, orderly.arena,
      fun _ => Nat.le_add_right _ _⟩
  refine .settle ⟨[.wake], rfl⟩ (same.orderly (heard_wake orderly.heard).1 begun)
    (same.running.trans running) same.now ?_
  have next := firings_next orderly.countdownSpan early
  have due : l.timerDue = l.now := by simp [timerDue, sleeping]
  rw [same.remaining, remaining, remaining, due, ← next]
  exact Nat.lt_succ_self _

-- Of the two timers the one that is due first.
inductive Next (l : GameLoop) : Time → (GameLoop → GameLoop) → Prop where
  | arena (first : ∀ epoch due, l.countdown = .sleeping epoch due → l.arenaDue ≤ due) :
      Next l l.arenaDue tickArena
  | countdown {epoch : Nat} {due : Time} (sleeping : l.countdown = .sleeping epoch due)
      (first : due ≤ l.arenaDue) : Next l due stepCountdown

theorem next_due (running : l.running = true) (before : Time) :
    ∃ due action, l.Next due action ∧
      l.nextDue? before = if due < before then some (due, action) else none := by
  unfold nextDue?
  rw [running]
  cases slept : l.countdown with
  | waiting =>
    refine ⟨l.arenaDue, tickArena, .arena fun _ _ sleeping => ?_, rfl⟩
    rw [slept] at sleeping
    cases sleeping
  | sleeping epoch due =>
    by_cases first : due < l.arenaDue
    · refine ⟨due, stepCountdown, .countdown slept (Nat.le_of_lt first), ?_⟩
      simp [first]
    · refine ⟨l.arenaDue, tickArena, .arena fun _ _ sleeping => ?_, by simp [first]⟩
      rw [slept] at sleeping
      cases sleeping
      exact Nat.not_lt.mp first

theorem Next.first {due : Time} {action : GameLoop → GameLoop} (next : l.Next due action) :
    due ≤ l.arenaDue ∧ ∀ epoch d, l.countdown = .sleeping epoch d → due ≤ d := by
  cases next with
  | arena first => exact ⟨Nat.le_refl _, first⟩
  | countdown sleeping first =>
    refine ⟨first, fun _ _ slept => ?_⟩
    rw [sleeping] at slept
    cases slept
    exact Nat.le_refl _

-- Time passes until the next timer is due, or until then.
theorem orderly_later (orderly : l.Orderly) (arena : l.running = true → instant ≤ l.arenaDue)
    (timer : l.running = true → ∀ epoch due, l.countdown = .sleeping epoch due → instant ≤ due) :
    Orderly { l with now := instant } where
  works := orderly.works
  heard := orderly.heard
  tickSpan := orderly.tickSpan
  countdownSpan := orderly.countdownSpan
  arena := arena
  timer running := by
    have slept := timer running
    unfold timerDue
    cases waits : l.countdown with
    | waiting => exact Nat.le_add_right _ _
    | sleeping epoch due => exact slept epoch due waits

theorem remaining_later (later : l.now ≤ instant) (before : Time) :
    remaining before { l with now := instant } ≤ l.remaining before := by
  unfold remaining
  refine Nat.add_le_add_left (firings_later ?_) _
  unfold timerDue
  cases l.countdown with
  | waiting => exact Nat.add_le_add_right later _
  | sleeping => exact Nat.le_refl _

theorem round_next {due : Time} {action : GameLoop → GameLoop} (orderly : l.Orderly)
    (running : l.running = true) (next : l.Next due action) (early : due < instant) :
    Round instant due l (action { l with now := due }) := by
  obtain ⟨arena, timer⟩ := next.first
  have later : l.now ≤ due := by
    cases next with
    | arena => exact orderly.arena running
    | countdown sleeping =>
      have slept := orderly.timer running
      simpa [timerDue, sleeping] using slept
  have punctual : Orderly { l with now := due } :=
    orderly_later orderly (fun _ => arena) fun _ => timer
  have round : Round instant due { l with now := due } (action { l with now := due }) := by
    cases next with
    | arena => exact round_tickArena punctual running early rfl
    | countdown sleeping => exact round_stepCountdown punctual running early sleeping
  exact ⟨(reaches_later later).trans round.reaches, round.orderly, round.running, round.now,
    Nat.lt_of_lt_of_le round.fewer (remaining_later later instant)⟩

theorem nextDue?_stopped (stopped : l.running = false) : l.nextDue? instant = none := by
  simp [nextDue?, stopped]

theorem passFrom_rest (none : l.nextDue? instant = none) (fuel : Nat) :
    passFrom instant fuel l = { l with now := instant } := by
  cases fuel with
  | zero => rfl
  | succ fuel => rw [passFrom, none]

theorem rest_reaches (orderly : l.Orderly) (later : l.now ≤ instant)
    (none : l.nextDue? instant = none) (fuel : Nat) :
    Reaches l (passFrom instant fuel l) ∧ (passFrom instant fuel l).Orderly := by
  have first (running : l.running = true) :
      instant ≤ l.arenaDue ∧ ∀ epoch due, l.countdown = .sleeping epoch due → instant ≤ due := by
    obtain ⟨due, action, next, found⟩ := next_due running instant
    rw [none] at found
    have late : instant ≤ due := by
      by_contra early
      rw [if_pos (Nat.not_le.mp early)] at found
      cases found
    obtain ⟨arena, timer⟩ := next.first
    exact ⟨Nat.le_trans late arena, fun epoch d slept => Nat.le_trans late (timer epoch d slept)⟩
  rw [passFrom_rest none]
  exact ⟨reaches_later later,
    orderly_later orderly (fun running => (first running).1) fun running => (first running).2⟩

-- With as many rounds as there are ahead nothing that is due is left behind.
theorem passFrom_reaches (orderly : l.Orderly) (running : l.running = true) (later : l.now ≤ instant)
    {fuel : Nat} (enough : l.remaining instant ≤ fuel) :
    Reaches l (passFrom instant fuel l) ∧ (passFrom instant fuel l).Orderly := by
  induction fuel generalizing l with
  | zero =>
    obtain ⟨due, action, next, found⟩ := next_due running instant
    by_cases early : due < instant
    · have round := round_next orderly running next early
      have fewer := round.fewer
      omega
    · rw [if_neg early] at found
      exact rest_reaches orderly later found 0
  | succ fuel ih =>
    obtain ⟨due, action, next, found⟩ := next_due running instant
    by_cases early : due < instant
    · have round := round_next orderly running next early
      have before := Nat.le_trans (Nat.le_of_eq round.now) (Nat.le_of_lt early)
      obtain ⟨on, ends⟩ := ih round.orderly round.running before
        (Nat.le_of_lt_succ (Nat.lt_of_lt_of_le round.fewer enough))
      rw [if_pos early] at found
      rw [passFrom, found]
      exact ⟨round.reaches.trans on, ends⟩
    · rw [if_neg early] at found
      exact rest_reaches orderly later found (fuel + 1)

theorem rounds_enough (orderly : l.Orderly) (running : l.running = true) (instant : Time) :
    l.remaining instant ≤ l.rounds instant := by
  have arena := firings_bound (orderly.arena running) instant l.tickSpan
  have timer := firings_bound (orderly.timer running) instant l.countdownSpan
  unfold remaining rounds
  omega

theorem pass_reaches (orderly : l.Orderly) (later : l.now ≤ instant) :
    Reaches l (l.pass instant) ∧ (l.pass instant).Orderly := by
  by_cases running : l.running = true
  · exact passFrom_reaches orderly running later (rounds_enough orderly running instant)
  · exact rest_reaches orderly later (nextDue?_stopped (Bool.eq_false_iff.mpr running)) _

theorem perform_reaches (orderly : l.Orderly) {c : Command} (single : c.isSingle) :
    Reaches l (l.perform (.command c)).2 ∧ (l.perform (.command c)).2.Orderly := by
  have same := sameClocks_act (Engine.perform c) l
  exact ⟨⟨[.order c single], rfl⟩, same.orderly (l.heard_act (Engine.perform c)) orderly⟩

-- A command at an instant: what has become due by then, the command, and a turn for everybody. What
-- has been shown by then is set aside.
theorem play_reaches (orderly : l.Orderly) (later : l.now ≤ instant) {c : Command}
    (single : c.isSingle) :
    let seen := (l.play instant (.command c)).2.1
    Reaches l seen ∧ Reaches { seen with broadcasts := [] } (l.play instant (.command c)).2.2 ∧
      (l.play instant (.command c)).2.2.Orderly := by
  obtain ⟨passes, punctual⟩ := pass_reaches orderly later
  obtain ⟨performs, after⟩ := perform_reaches punctual single
  have aside : Orderly { ((l.pass instant).perform (.command c)).2 with broadcasts := [] } :=
    ⟨after.works, after.heard, after.tickSpan, after.countdownSpan, after.arena, after.timer⟩
  exact ⟨passes.trans performs, reaches_settle aside.heard aside.works, (settle_orderly aside).2⟩

-- A loop that is started for an engine whose changes have all been heard.
theorem start_orderly {e : Engine} (heard : ∀ n ∈ e.notices, isOwn n = false)
    (tickSpan countdownSpan : Time) :
    (ofEngine e tickSpan countdownSpan 0).start.Orderly := by
  have span (given usual : Time) (positive : 0 < usual) : 0 < if given = 0 then usual else given := by
    split
    · exact positive
    · rename_i other
      exact Nat.pos_of_ne_zero other
  exact ⟨rfl, heard, span tickSpan _ (by decide), span countdownSpan _ (by decide),
    fun _ => Nat.le_add_right _ _, fun _ => Nat.le_add_right _ _⟩

end GameLoop
end ScriptArena.Service
