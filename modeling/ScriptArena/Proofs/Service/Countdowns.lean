import ScriptArena.Proofs.Arena.Lifecycle
import ScriptArena.Proofs.Service.Turns

namespace ScriptArena.Arena.Engine

variable {e : Engine} {command : Command}

-- A countdown that goes on is the same countdown.
theorem countdownTick_epoch (counting : countsDown e.countdownTick.state = true) :
    e.countdownTick.epoch = e.epoch := by
  unfold countdownTick at counting ⊢
  cases change : e.state.countdownTick with
  | none => rfl
  | some s =>
    rw [change] at counting
    have before : countsDown e.state = true := by
      by_contra other
      have idle : e.state.mode ≠ .countdown := fun mode => other (by simp [countsDown, mode])
      rw [State.countdownTick_none idle] at change
      cases change
    have after : countsDown s = true := by
      rwa [commit, (enter_notices e s none).1] at counting
    rw [commit, enter_epoch, if_pos (after.trans before.symm)]

-- Only its own timer counts a countdown down.
theorem counting_perform (single : command.isSingle) (other : command.isCount = false)
    (counting : e.state.mode = .countdown) (still : (e.perform command).2.state.mode = .countdown) :
    (e.perform command).2.state.countdown = e.state.countdown := by
  have step := counts_perform single counting
  generalize (e.perform command).2.state = s at step still
  cases step with
  | waits => rfl
  | leaves idle =>
    rw [idle] at still
    cases still
  | starts => cases still
  | less | stuck => cases other

end ScriptArena.Arena.Engine

namespace ScriptArena.Service
open Arena

namespace GameLoop

-- A countdown that is under way has a step ahead of it.
def Pending (l : GameLoop) : Prop :=
  l.countsDown = true → l.armed = true ∨ ∃ due, l.countdown = .sleeping l.engine.epoch due

variable {l : GameLoop}

theorem countsDown_iff : l.countsDown = true ↔ l.engine.state.mode = .countdown := decide_eq_true_iff

theorem wake_still (still : ¬ l.Steps) : l.wake.engine = l.engine := by
  have wakes := l.wakes_wake
  generalize l.wake = m at wakes
  cases wakes with
  | idle | drop => rfl
  | stop steps | again steps => exact absurd steps still

end GameLoop

namespace Stage

variable {s : Stage} {t : Turn} {turns earlier since : List Turn} {turn : Turn} {epoch : Nat} {due : Time}

-- A turn leaves the timer as it is, or the timer goes to rest, or it begins a sleep.
inductive Timed (s : Stage) (t : Turn) (m : GameLoop) : Prop where
  | keeps (timer : m.countdown = s.loop.countdown) (armed : s.loop.armed = true → m.armed = true)
      (value : s.loop.countsDown = true → m.countsDown = true → t ≠ .order .countdownTick rfl →
        m.engine.state.countdown = s.loop.engine.state.countdown)
  | rests (timer : m.countdown = .waiting) (pending : s.loop.Pending → m.countsDown = true →
      m.armed = true)
  | sleeps (fresh : s.loop.countdown = .waiting ∨ t = .wake ∧ s.loop.Steps)
      (counting : m.countsDown = true)
      (timer : m.countdown = .sleeping m.engine.epoch (m.now + m.countdownSpan))

-- Nothing that the timer has to do with.
theorem Timed.aside {m : GameLoop} (timer : m.countdown = s.loop.countdown)
    (armed : m.armed = s.loop.armed) (state : m.engine.state = s.loop.engine.state) : Timed s t m :=
  .keeps timer (fun before => armed.trans before) fun _ _ _ => congrArg State.countdown state

theorem timed_arm (s : Stage) : Timed s .arm s.loop.arm := by
  unfold GameLoop.arm
  split
  · rename_i ready
    have waiting : s.loop.countdown = .waiting := by
      simp only [Bool.and_eq_true, decide_eq_true_eq] at ready
      exact ready.2
    dsimp only
    split
    · rename_i counting
      exact .sleeps (.inl waiting) counting rfl
    · rename_i idle
      exact .rests waiting fun _ counting => absurd counting idle
  · exact .aside rfl rfl rfl

theorem timed_wake (s : Stage) : Timed s .wake s.loop.wake := by
  have wakes := s.loop.wakes_wake
  generalize s.loop.wake = m at wakes
  cases wakes with
  | idle => exact .aside rfl rfl rfl
  | @drop epoch due slept left =>
    refine .rests rfl fun pending counting => ?_
    rcases pending counting with armed | ⟨_, sleeping⟩
    · exact armed
    · rw [slept] at sleeping
      cases sleeping
      exact absurd rfl left
  | stop steps ended =>
    refine .rests rfl fun _ counting => ?_
    exact absurd (counting.symm.trans ended) (by simp)
  | again steps counting =>
    refine .sleeps (.inr ⟨rfl, steps⟩) counting ?_
    have same : (s.loop.act fun e => ((), e.countdownTick)).2.engine.epoch = s.loop.engine.epoch :=
      Engine.countdownTick_epoch counting
    simp only [GameLoop.sleep, same]

-- Whoever else calls the engine.
theorem timed_act {α : Type} {command : Command} (single : command.isSingle)
    (action : Engine → α × Engine) {m : GameLoop}
    (acted : (action s.loop.engine).2 = (s.loop.engine.perform command).2)
    (other : t ≠ .order .countdownTick rfl → command.isCount = false)
    (engine : m.engine = (s.loop.act action).2.engine)
    (armed : m.armed = (s.loop.act action).2.armed) (timer : m.countdown = s.loop.countdown) :
    Timed s t m := by
  refine .keeps timer (fun before => ?_) fun counting still different => ?_
  · rw [armed, GameLoop.act_loop, before]
    rfl
  · have state : m.engine.state = (s.loop.engine.perform command).2.state := by
      rw [engine, ← acted, GameLoop.act_loop]
    rw [GameLoop.countsDown_iff] at counting still
    rw [state] at still ⊢
    exact Engine.counting_perform single (other different) counting still

theorem timed_step (t : Turn) (s : Stage) : Timed s t (s.step t).loop := by
  cases t with
  | elapse => exact .aside rfl rfl rfl
  | arena =>
    have single : Command.tick.isSingle := rfl
    refine timed_act single Engine.tick ?_ (fun _ => rfl) rfl rfl rfl
    exact (Engine.replied_engine _ s.loop.engine.tick).symm
  | arm => exact s.timed_arm
  | wake => exact s.timed_wake
  | collect =>
    simp only [step, collect]
    split
    · exact .aside rfl rfl rfl
    · exact .aside rfl rfl rfl
  | snap =>
    simp only [step, snap]
    split
    · exact .aside rfl rfl rfl
    · exact .aside rfl rfl rfl
  | send => exact .aside (by simp [step, send_loop]) (by simp [step, send_loop]) (by simp [step, send_loop])
  | order c single =>
    refine timed_act single (Engine.perform c) rfl (fun different => ?_) rfl rfl rfl
    cases c with
    | countdownTick => exact absurd rfl different
    | _ => rfl
  | mail => exact .aside rfl rfl rfl
  | touch =>
    refine .keeps rfl (fun before => ?_) fun _ _ _ => rfl
    simp [step, GameLoop.act_loop, before]
  | connect | disconnect => exact .aside rfl rfl rfl

theorem pending_step (watched : s.Watched) (pending : s.loop.Pending) (t : Turn) :
    (s.step t).loop.Pending := by
  intro counting
  have seen := seen_step t s
  cases timed_step t s with
  | keeps timer armed =>
    by_cases same : (s.step t).loop.engine.version = s.loop.engine.version
    · obtain ⟨state, epoch⟩ := seen.still same
      have before : s.loop.countsDown = true := by
        rw [GameLoop.countsDown_iff] at counting ⊢
        exact state ▸ counting
      rcases pending before with still | sleeping
      · exact .inl (armed still)
      · exact .inr (by rwa [timer, epoch])
    · exact .inl ((seen.heard watched.listens same).2 counting)
  | rests _ still => exact .inl (still pending counting)
  | sleeps _ _ timer => exact .inr ⟨_, timer⟩

theorem pending_run (watched : s.Watched) (pending : s.loop.Pending) (turns : List Turn) :
    (s.run turns).loop.Pending := by
  induction turns using List.reverseRecOn with
  | nil => exact pending
  | append_singleton turns t ih =>
    rw [run_concat]
    exact pending_step (watched.run turns) ih t

-- A turn has begun a sleep, and the timer has slept since. If the countdown of that time is still
-- under way, then it has been all the time.
structure Slept (s : Stage) (earlier : List Turn) (turn : Turn) (since : List Turn) (epoch : Nat)
    (due : Time) : Prop where
  fresh : (s.run earlier).loop.countdown = .waiting ∨ turn = .wake ∧ (s.run earlier).loop.Steps
  span : due = (s.run (earlier ++ [turn])).loop.now + (s.run (earlier ++ [turn])).loop.countdownSpan
  asleep : ∀ part ∈ since.inits, (s.run (earlier ++ turn :: part)).loop.countdown = .sleeping epoch due
  latest : epoch ≤ (s.run (earlier ++ turn :: since)).loop.engine.epoch
  counting : (s.run (earlier ++ turn :: since)).loop.engine.epoch = epoch → ∀ part ∈ since.inits,
    (s.run (earlier ++ turn :: part)).loop.engine.epoch = epoch ∧
      (s.run (earlier ++ turn :: part)).loop.countsDown = true
  value : (s.run (earlier ++ turn :: since)).loop.engine.epoch = epoch →
    .order .countdownTick rfl ∉ since → ∀ part ∈ since.inits,
      (s.run (earlier ++ turn :: part)).loop.engine.state.countdown =
        (s.run (earlier ++ turn :: since)).loop.engine.state.countdown

theorem run_later (earlier : List Turn) (turn : Turn) (since : List Turn) (t : Turn) (s : Stage) :
    s.run (earlier ++ turn :: (since ++ [t])) = (s.run (earlier ++ turn :: since)).step t := by
  rw [← List.cons_append, ← List.append_assoc, run_concat]

theorem Slept.longer (slept : s.Slept earlier turn since epoch due)
    (timer : ((s.run (earlier ++ turn :: since)).step t).loop.countdown =
      (s.run (earlier ++ turn :: since)).loop.countdown)
    (value : (s.run (earlier ++ turn :: since)).loop.countsDown = true →
      ((s.run (earlier ++ turn :: since)).step t).loop.countsDown = true →
      t ≠ .order .countdownTick rfl →
        ((s.run (earlier ++ turn :: since)).step t).loop.engine.state.countdown =
          (s.run (earlier ++ turn :: since)).loop.engine.state.countdown) :
    s.Slept earlier turn (since ++ [t]) epoch due := by
  have now := mem_inits_self since
  have seen := seen_step t (s.run (earlier ++ turn :: since))
  have latest := slept.latest
  have grown := seen.epoch
  -- The epoch cannot come back to what it was.
  have before (same : ((s.run (earlier ++ turn :: since)).step t).loop.engine.epoch = epoch) :
      (s.run (earlier ++ turn :: since)).loop.engine.epoch = epoch := by omega
  have counts (same : ((s.run (earlier ++ turn :: since)).step t).loop.engine.epoch = epoch) :
      ((s.run (earlier ++ turn :: since)).step t).loop.countsDown = true :=
    (seen.counts (same.trans (before same).symm)).trans (slept.counting (before same) since now).2
  refine ⟨slept.fresh, slept.span, forall_inits_concat slept.asleep ?_, ?_, ?_, ?_⟩
  · rw [run_later, timer]
    exact slept.asleep since now
  · rw [run_later]
    exact Nat.le_trans latest grown
  · rw [run_later]
    intro same
    refine forall_inits_concat (slept.counting (before same)) ?_
    rw [run_later]
    exact ⟨same, counts same⟩
  · rw [run_later]
    intro same alone
    have others : Turn.order .countdownTick rfl ∉ since :=
      fun inside => alone (List.mem_append_left _ inside)
    have last : t ≠ .order .countdownTick rfl :=
      fun it => alone (it ▸ List.mem_append_right _ List.mem_cons_self)
    have kept := value (slept.counting (before same) since now).2 (counts same) last
    refine forall_inits_concat (fun part inside => ?_) (by rw [run_later])
    rw [kept]
    exact slept.value (before same) others part inside

theorem slept_run (waiting : s.loop.countdown = .waiting) (turns : List Turn)
    (sleeping : (s.run turns).loop.countdown = .sleeping epoch due) :
    ∃ earlier turn since, turns = earlier ++ turn :: since ∧ s.Slept earlier turn since epoch due := by
  induction turns using List.reverseRecOn generalizing epoch due with
  | nil =>
    have still : s.loop.countdown = .sleeping epoch due := sleeping
    rw [waiting] at still
    cases still
  | append_singleton turns t ih =>
    rw [run_concat] at sleeping
    cases timed_step t (s.run turns) with
    | keeps timer _ value =>
      obtain ⟨earlier, turn, since, rfl, slept⟩ := ih (timer.symm.trans sleeping)
      exact ⟨earlier, turn, since ++ [t], by simp, slept.longer timer value⟩
    | rests timer =>
      rw [timer] at sleeping
      cases sleeping
    | sleeps fresh counting timer =>
      rw [timer] at sleeping
      cases sleeping
      refine ⟨turns, t, [], rfl, fresh, ?_, ?_, ?_, ?_, ?_⟩
      · rw [run_concat]
      · simpa [run_concat] using timer
      · rw [run_concat]
      · simpa [run_concat] using counting
      · simp

-- However the turns of a loop that has been started lie: when its timer takes a step, the countdown
-- has been under way since the timer fell asleep, no less than a span ago, and its value has been the
-- same unless somebody else counts it down; and no countdown is forgotten.
theorem countdowns_in_force (idle : s.loop.running = false) (turns : List Turn) :
    (¬ (s.launched.run turns).loop.Steps →
      (s.launched.run (turns ++ [.wake])).loop.engine = (s.launched.run turns).loop.engine) ∧
    ((s.launched.run turns).loop.Steps → ∃ earlier turn since, turns = earlier ++ turn :: since ∧
      ((s.launched.run earlier).loop.countdown = .waiting ∨
        turn = .wake ∧ (s.launched.run earlier).loop.Steps) ∧
      (s.launched.run (earlier ++ [turn])).loop.now + s.loop.countdownSpan ≤
        (s.launched.run turns).loop.now ∧
      ∀ part ∈ since.inits,
        (s.launched.run (earlier ++ turn :: part)).loop.countdown =
          (s.launched.run turns).loop.countdown ∧
        (s.launched.run (earlier ++ turn :: part)).loop.engine.state.mode = .countdown ∧
        (s.launched.run (earlier ++ turn :: part)).loop.engine.epoch =
          (s.launched.run turns).loop.engine.epoch ∧
        (.order .countdownTick rfl ∉ since →
          (s.launched.run (earlier ++ turn :: part)).loop.engine.state.countdown =
            (s.launched.run turns).loop.engine.state.countdown)) ∧
    ((s.launched.run turns).loop.engine.state.mode = .countdown →
      (s.launched.run turns).loop.armed = true ∨
        ∃ due, (s.launched.run turns).loop.countdown =
          .sleeping (s.launched.run turns).loop.engine.epoch due) := by
  have started := start_idle idle
  refine ⟨fun still => ?_, fun ⟨epoch, due, sleeping, past, same⟩ => ?_, fun counting => ?_⟩
  · rw [run_concat]
    exact GameLoop.wake_still still
  · have waiting : s.launched.loop.countdown = .waiting := congrArg GameLoop.countdown started
    obtain ⟨earlier, turn, since, rfl, slept⟩ := slept_run waiting turns sleeping
    refine ⟨earlier, turn, since, rfl, slept.fresh, ?_, fun part inside => ?_⟩
    · have span : s.launched.loop.countdownSpan = s.loop.countdownSpan := by rw [launched, started]
      have begun := slept.span
      rw [span_run, span] at begun
      exact begun ▸ past
    · obtain ⟨epoch', counting⟩ := slept.counting same part inside
      refine ⟨(slept.asleep part inside).trans sleeping.symm, GameLoop.countsDown_iff.mp counting,
        epoch'.trans same.symm, fun alone => slept.value same alone part inside⟩
  · have pending : s.launched.loop.Pending := by
      intro counting
      refine .inl ?_
      rw [launched, started] at counting ⊢
      exact counting
    exact pending_run (watched_launched idle) pending turns (GameLoop.countsDown_iff.mpr counting)

-- A countdown is left and begun anew while the timer sleeps on it. The step of the first one is
-- dropped, and that of the second one comes a whole second after it has begun.
def recountStage : Stage := { loop := .ofEngine Engine.restingGame 0 0 0 }

def recount : List Turn :=
  [.toggle, .arm, .elapse 600000, .toggle, .toggle, .elapse 400000, .wake, .arm, .elapse 700000,
    .order .hint rfl, .arena, .elapse 300000]

theorem recount_in_force :
    (recountStage.launched.run (recount.take 6)).loop.countdown = .sleeping 1 1000000 ∧
      (recountStage.launched.run recount).loop.Steps ∧
      (recountStage.launched.run recount).loop.now = 2000000 ∧
      ∃ earlier turn since, recount = earlier ++ turn :: since ∧
        (recountStage.launched.run (earlier ++ [turn])).loop.now + 1000000 ≤ 2000000 ∧
        ∀ part ∈ since.inits,
          (recountStage.launched.run (earlier ++ turn :: part)).loop.engine.epoch = 3 ∧
          (recountStage.launched.run (earlier ++ turn :: part)).loop.engine.state.mode =
            .countdown := by
  have late : (recountStage.launched.run recount).loop.now = 2000000 := by decide +kernel
  have epoch : (recountStage.launched.run recount).loop.engine.epoch = 3 := by decide +kernel
  have steps : (recountStage.launched.run recount).loop.Steps :=
    ⟨3, 2000000, by decide +kernel, Nat.le_of_eq late.symm, epoch⟩
  obtain ⟨-, stepping, -⟩ := countdowns_in_force (s := recountStage) rfl recount
  obtain ⟨earlier, turn, since, split, -, begun, all⟩ := stepping steps
  refine ⟨by decide +kernel, steps, late, earlier, turn, since, split, late ▸ begun,
    fun part inside => ?_⟩
  obtain ⟨-, counting, same, -⟩ := all part inside
  exact ⟨same.trans epoch, counting⟩

end Stage
end ScriptArena.Service
