import Mathlib.Data.List.Infix
import Mathlib.Data.List.Induction
import ScriptArena.Proofs.Arena.Notices

namespace ScriptArena.Arena

-- Commands that play the game or count for it.
def Command.isMove : Command → Bool
  | .tick | .ticks _ | .countdownTick | .toggle | .direction _ | .submit _ | .solve | .skip | .hint => true
  | _ => false

-- Commands that leave the game alone.
def Command.isAside : Command → Bool
  | .signIn _ | .signOut | .flush | .snapshot | .look | .reach .. | .await _ | .subscribe _
  | .unsubscribe _ => true
  | _ => false

-- Commands that need an active challenge.
def Command.isAnswer : Command → Bool
  | .submit _ | .solve | .skip | .hint => true
  | _ => false

def Command.isCount : Command → Bool
  | .countdownTick => true
  | _ => false

theorem Command.play_of_single {command : Command} (single : command.isSingle) : command.isPlay := by
  cases command with
  | set => cases single
  | _ => rfl

-- What is kept all along is kept by one more.
theorem forall_inits_concat {α : Type} {run : List α} {next : α} {kept : List α → Prop}
    (all : ∀ part ∈ run.inits, kept part) (last : kept (run ++ [next])) :
    ∀ part ∈ (run ++ [next]).inits, kept part := by
  intro part inside
  rcases List.prefix_concat_iff.mp ((List.mem_inits _ _).mp inside) with rfl | earlier
  · exact last
  · exact all part ((List.mem_inits _ _).mpr earlier)

theorem mem_inits_self {α : Type} (run : List α) : run ∈ run.inits :=
  (List.mem_inits _ _).mpr (List.prefix_refl run)

namespace State

structure SameGrid (s s' : State) : Prop where
  snake : s'.snake = s.snake
  food : s'.food = s.food
  bugs : s'.bugs = s.bugs
  score : s'.score = s.score
  ticks : s'.ticks = s.ticks

variable {s s' s'' : State} {c : Config}

theorem SameGrid.refl (s : State) : SameGrid s s := ⟨rfl, rfl, rfl, rfl, rfl⟩

theorem SameGrid.trans (first : SameGrid s s') (second : SameGrid s' s'') : SameGrid s s'' :=
  ⟨second.snake.trans first.snake, second.food.trans first.food, second.bugs.trans first.bugs,
    second.score.trans first.score, second.ticks.trans first.ticks⟩

theorem current?_none (inactive : s.mode ≠ .challengeActive) :
    s.current? = .error .noActiveChallenge := by
  unfold current?
  split
  · rename_i active _
    exact absurd active inactive
  · rfl

theorem skipChallenge_none (inactive : s.mode ≠ .challengeActive) :
    s.skipChallenge = .error .nothingToSkip := if_neg inactive

theorem countdownTick_none (still : s.mode ≠ .countdown) : s.countdownTick = none := by
  unfold countdownTick
  split
  · rename_i counting _
    exact absurd counting still
  · rfl

theorem countdownTick_some (counting : s.mode = .countdown) {left : Int}
    (now : s.countdown = some left) :
    s.countdownTick =
      if 0 < left then some { s with countdown := some (left - 1) } else some s.start := by
  unfold countdownTick
  split
  · rename_i found
    rw [now] at found
    cases found
    rfl
  · rename_i other
    exact absurd now (other left counting)

theorem changeDirection_none (deaf : s.takesDirection = false) (d : Direction) :
    s.changeDirection c d = none := by
  simp [changeDirection, deaf]

end State

namespace Engine
open State

variable {e : Engine} {command : Command}

theorem commit_state (e : Engine) (change : Option State) :
    (e.commit change).state = change.getD e.state := by
  cases change with
  | none => rfl
  | some s => exact (enter_notices e s none).1

theorem tick_idle (still : e.state.mode ≠ .running)
    (unready : ¬ (e.state.mode = .countdown ∧ e.state.countdown = some 0)) :
    e.tick = (.ok .none, e) := by
  unfold tick advance
  rw [if_neg unready, if_neg still]

theorem ticks_idle (still : e.state.mode ≠ .running)
    (unready : ¬ (e.state.mode = .countdown ∧ e.state.countdown = some 0)) (n : Nat) :
    (e.ticks n).2 = e := by
  induction n with
  | zero => rfl
  | succ n ih =>
    unfold ticks
    rw [tick_idle still unready]
    exact ih

theorem turn_deaf (deaf : e.state.takesDirection = false) (d : Datum) : (e.turn d).2 = e := by
  unfold turn
  split
  · rw [setDirection, changeDirection_none deaf]
    rfl
  · rfl

theorem submit_inactive (inactive : e.state.mode ≠ .challengeActive) (source : String) :
    e.submit source = (.error .noActiveChallenge, e) := by
  unfold submit
  rw [current?_none inactive]

theorem skip_inactive (inactive : e.state.mode ≠ .challengeActive) :
    e.skip = (.error .nothingToSkip, e) := by
  unfold skip
  rw [skipChallenge_none inactive]

theorem hint_inactive (inactive : e.state.mode ≠ .challengeActive) :
    e.hint = (.error .noActiveChallenge, e) := by
  unfold hint
  rw [current?_none inactive]

theorem answer_inactive (inactive : e.state.mode ≠ .challengeActive) (answer : command.isAnswer) :
    (e.perform command).2 = e := by
  cases command with
  | submit source =>
    exact (replied_engine _ (e.submit source)).trans (by rw [submit_inactive inactive])
  | solve => exact (replied_engine _ (e.submit _)).trans (by rw [submit_inactive inactive])
  | skip => exact (replied_engine _ e.skip).trans (by rw [skip_inactive inactive])
  | hint => exact (replied_engine _ e.hint).trans (by rw [hint_inactive inactive])
  | _ => cases answer

-- The player is told that there is nothing to do that with, and nothing has changed.
def Refuses (e : Engine) (command : Command) : Prop :=
  ∃ why, e.perform command = (.refused why, e) ∧ why.code? = some "no_active_challenge"

theorem refuses_inactive (inactive : e.state.mode ≠ .challengeActive) :
    (∀ source, e.Refuses (.submit source)) ∧ e.Refuses .skip ∧ e.Refuses .hint := by
  refine ⟨fun source => ⟨.noActiveChallenge, ?_, rfl⟩, ⟨.nothingToSkip, ?_, rfl⟩,
    ⟨.noActiveChallenge, ?_, rfl⟩⟩
  · rw [perform, submit_inactive inactive]
    rfl
  · rw [perform, skip_inactive inactive]
    rfl
  · rw [perform, hint_inactive inactive]
    rfl

theorem over_stays (ended : e.state.mode = .gameOver) (move : command.isMove) :
    (e.perform command).2 = e := by
  have still : e.state.mode ≠ .running := by simp [ended]
  have unready : ¬ (e.state.mode = .countdown ∧ e.state.countdown = some 0) := by simp [ended]
  have inactive : e.state.mode ≠ .challengeActive := by simp [ended]
  have deaf : e.state.takesDirection = false := by simp [takesDirection, ended]
  cases command with
  | tick => exact (replied_engine _ e.tick).trans (by rw [tick_idle still unready])
  | ticks n => exact (replied_engine _ (e.ticks n)).trans (ticks_idle still unready n)
  | countdownTick =>
    have none : e.state.countdownTick = none := countdownTick_none (by simp [ended])
    exact congrArg (e.commit ·) none
  | toggle =>
    have none : e.state.togglePlay e.config = none := by simp [State.togglePlay, ended]
    exact congrArg (e.commit ·) none
  | direction d => exact (replied_engine _ (e.turn d)).trans (turn_deaf deaf d)
  | submit | solve | skip | hint => exact answer_inactive inactive rfl
  | reset | signIn | signOut | flush | snapshot | look | set | reach | await | subscribe | unsubscribe =>
    cases move

theorem state_aside (aside : command.isAside) (e : Engine) :
    (e.perform command).2.state = e.state := by
  cases command with
  | signIn user => exact entered_signIn user e ▸ signIn_state user e
  | signOut | flush | snapshot | look | reach | await | subscribe | unsubscribe => rfl
  | _ => cases aside

-- Only a reset leaves the end of a game.
theorem over_for_good (ended : e.state.mode = .gameOver) {commands : List Command}
    (play : ∀ command ∈ commands, command.isPlay) (kept : .reset ∉ commands) :
    (e.performAll commands).state = e.state := by
  induction commands generalizing e with
  | nil => rfl
  | cons command rest ih =>
    have ⟨first, others⟩ := List.forall_mem_cons.mp play
    have ⟨other, later⟩ := not_or.mp (mt List.mem_cons.mpr kept)
    have same : (e.perform command).2.state = e.state := by
      cases command with
      | reset => exact absurd rfl other
      | set => cases first
      | tick | ticks | countdownTick | toggle | direction | submit | solve | skip | hint =>
        rw [over_stays ended rfl]
      | _ => exact state_aside rfl e
    exact (ih (same ▸ ended) others later).trans same

inductive Starts (e : Engine) : Command → Prop where
  | counted (counting : e.state.mode = .countdown) : Starts e .countdownTick
  | promoted (counting : e.state.mode = .countdown) : Starts e .tick
  | skipped (active : e.state.mode = .challengeActive) : Starts e .skip
  | submitted {ch : Challenge} {source : String} (active : e.state.mode = .challengeActive)
      (current : e.state.current? = .ok ch)
      (passed : isSolvedBy (Judge.evaluate ch e.limits source ch.testCases)) :
      Starts e (.submit source)
  | solved {ch : Challenge} (active : e.state.mode = .challengeActive)
      (current : e.state.current? = .ok ch)
      (passed : isSolvedBy (Judge.evaluate ch e.limits e.activeSolution ch.testCases)) :
      Starts e .solve

theorem tick_starts (still : e.state.mode ≠ .running) (on : e.tick.2.state.mode = .running) :
    e.state.mode = .countdown := by
  by_cases ready : e.state.mode = .countdown ∧ e.state.countdown = some 0
  · exact ready.1
  · rw [tick_idle still ready] at on
    exact absurd on still

theorem commit_starts {change : Option State} (still : e.state.mode ≠ .running)
    (on : (e.commit change).state.mode = .running) : ∃ s, change = some s ∧ s.mode = .running := by
  rw [commit_state] at on
  cases change with
  | none => exact absurd on still
  | some s => exact ⟨s, rfl, on⟩

theorem countdownTick_starts (still : e.state.mode ≠ .running)
    (on : e.countdownTick.state.mode = .running) : e.state.mode = .countdown := by
  obtain ⟨s, ticked, -⟩ := commit_starts still on
  by_contra away
  rw [countdownTick_none away] at ticked
  cases ticked

theorem togglePlay_rests {c : Config} {s s' : State} (toggled : s.togglePlay c = some s') :
    s'.mode ≠ .running := by
  obtain ⟨-, rfl⟩ | ⟨-, rfl⟩ := togglePlay_cases toggled
  · exact nofun
  · exact nofun

theorem changeDirection_mode {c : Config} {s s' : State} {d : Direction}
    (turned : s.changeDirection c d = some s') : s'.mode = s.mode := by
  obtain ⟨-, -, rfl⟩ := changeDirection_taken turned
  rfl

theorem turn_mode (d : Datum) (e : Engine) : (e.turn d).2.state.mode = e.state.mode := by
  obtain ⟨change, commits, turned⟩ := turn_commits d e
  rw [commits, commit_state]
  cases change with
  | none => rfl
  | some s =>
    obtain ⟨_, turned⟩ := turned s rfl
    exact changeDirection_mode turned

theorem hint_mode (e : Engine) : e.hint.2.state.mode = e.state.mode := by
  obtain ⟨change, commits, revealed⟩ := hint_commits e
  rw [commits, commit_state]
  cases change with
  | none => rfl
  | some s =>
    obtain ⟨ch, -, -, rfl⟩ := revealHint_more (revealed s rfl)
    rfl

theorem skip_starts (still : e.state.mode ≠ .running) (on : e.skip.2.state.mode = .running) :
    e.state.mode = .challengeActive := by
  by_contra away
  rw [skip_inactive away] at on
  exact still on

theorem submit_starts {source : String} (still : e.state.mode ≠ .running)
    (on : (e.submit source).2.state.mode = .running) :
    e.state.mode = .challengeActive ∧ ∃ ch, e.state.current? = .ok ch ∧
      isSolvedBy (Judge.evaluate ch e.limits source ch.testCases) := by
  unfold submit at on
  cases current : e.state.current? with
  | error why =>
    rw [current] at on
    exact absurd on still
  | ok ch =>
    rw [current] at on
    refine ⟨(current?_ok current).1, ch, rfl, ?_⟩
    dsimp only at on
    generalize Judge.evaluate ch e.limits source ch.testCases = verdicts at on ⊢
    by_contra failed
    rw [judged_failed ch e failed, enter_state] at on
    exact still on

theorem starts_running (single : command.isSingle) (still : e.state.mode ≠ .running)
    (on : (e.perform command).2.state.mode = .running) : e.Starts command := by
  cases command with
  | tick =>
    rw [perform, replied_engine] at on
    exact .promoted (tick_starts still on)
  | countdownTick => exact .counted (countdownTick_starts still on)
  | toggle =>
    obtain ⟨s, toggled, running⟩ := commit_starts still on
    exact absurd running (togglePlay_rests toggled)
  | direction d =>
    rw [perform, replied_engine, turn_mode] at on
    exact absurd on still
  | submit source =>
    rw [perform, replied_engine] at on
    obtain ⟨active, ch, current, passed⟩ := submit_starts still on
    exact .submitted active current passed
  | solve =>
    rw [perform, replied_engine] at on
    obtain ⟨active, ch, current, passed⟩ := submit_starts still on
    exact .solved active current passed
  | skip =>
    rw [perform, replied_engine] at on
    exact .skipped (skip_starts still on)
  | hint =>
    rw [perform, replied_engine, hint_mode] at on
    exact absurd on still
  | reset =>
    rw [perform, reset, commit_state] at on
    cases on
  | signIn | signOut | flush | snapshot | look | reach | await | subscribe | unsubscribe =>
    rw [state_aside rfl] at on
    exact absurd on still
  | ticks | set => cases single

-- What a command does to a game at rest.
inductive Rests (c : Config) (s : State) : Command → State → Prop where
  | still {command : Command} {s' : State} (idle : s'.mode = .idle) : Rests c s command s'
  | begin : Rests c s .toggle { s with mode := .countdown, countdown := some c.countdownStart }

-- What a command does to a countdown. One without a number is stuck.
inductive Counts (s : State) : Command → State → Prop where
  | waits {command : Command} (other : command.isCount = false) : Counts s command s
  | leaves {command : Command} {s' : State} (idle : s'.mode = .idle) : Counts s command s'
  | less {left : Int} (now : s.countdown = some left) (more : 0 < left) :
      Counts s .countdownTick { s with countdown := some (left - 1) }
  | starts {command : Command} {left : Int} (now : s.countdown = some left) (done : left ≤ 0)
      (timer : command = .countdownTick ∨ command = .tick) : Counts s command s.start
  | stuck (none : s.countdown = none) : Counts s .countdownTick s

theorem rests_perform (single : command.isSingle) (idle : e.state.mode = .idle) :
    Rests e.config e.state command (e.perform command).2.state := by
  have still : e.state.mode ≠ .running := by simp [idle]
  have unready : ¬ (e.state.mode = .countdown ∧ e.state.countdown = some 0) := by simp [idle]
  have inactive : e.state.mode ≠ .challengeActive := by simp [idle]
  cases command with
  | toggle =>
    have begun : e.state.togglePlay e.config =
        some { e.state with mode := .countdown, countdown := some e.config.countdownStart } := by
      simp [State.togglePlay, idle]
    have entered : (e.perform .toggle).2.state = _ := commit_state e (e.state.togglePlay e.config)
    rw [entered, begun]
    exact .begin
  | tick =>
    refine .still ?_
    rw [perform, replied_engine, tick_idle still unready]
    exact idle
  | countdownTick =>
    refine .still ?_
    have none : e.state.countdownTick = none := countdownTick_none (by simp [idle])
    have entered : (e.perform .countdownTick).2.state = _ := commit_state e e.state.countdownTick
    rw [entered, none]
    exact idle
  | direction d =>
    refine .still ?_
    rw [perform, replied_engine, turn_mode]
    exact idle
  | submit | solve | skip | hint =>
    rw [answer_inactive inactive rfl]
    exact .still idle
  | reset => exact .still (congrArg State.mode (commit_state _ (some .initial)))
  | ticks | set => cases single
  | signIn | signOut | flush | snapshot | look | reach | await | subscribe | unsubscribe =>
    exact .still ((congrArg State.mode (state_aside rfl e)).trans idle)

theorem counts_perform (single : command.isSingle) (counting : e.state.mode = .countdown) :
    Counts e.state command (e.perform command).2.state := by
  have still : e.state.mode ≠ .running := by simp [counting]
  have inactive : e.state.mode ≠ .challengeActive := by simp [counting]
  have deaf : e.state.takesDirection = false := by simp [takesDirection, counting]
  cases command with
  | tick =>
    rw [perform, replied_engine]
    by_cases ready : e.state.mode = .countdown ∧ e.state.countdown = some 0
    · have started : e.tick.2.state = e.state.start := by
        unfold tick advance
        rw [if_pos ready]
        exact enter_state _ _ _
      rw [started]
      exact .starts ready.2 (Int.le_refl 0) (.inr rfl)
    · rw [tick_idle still ready]
      exact .waits rfl
  | countdownTick =>
    have entered : (e.perform .countdownTick).2.state = _ := commit_state e e.state.countdownTick
    rw [entered]
    cases now : e.state.countdown with
    | none =>
      have stuck : e.state.countdownTick = none := by simp [State.countdownTick, now]
      rw [stuck]
      exact .stuck now
    | some left =>
      rw [countdownTick_some counting now]
      by_cases more : 0 < left
      · rw [if_pos more]
        exact .less now more
      · rw [if_neg more]
        exact .starts now (Int.not_lt.mp more) (.inl rfl)
  | toggle =>
    have left : e.state.togglePlay e.config = some { e.state with mode := .idle, countdown := none } := by
      simp [State.togglePlay, counting]
    have entered : (e.perform .toggle).2.state = _ := commit_state e (e.state.togglePlay e.config)
    rw [entered, left]
    exact .leaves rfl
  | direction d =>
    rw [perform, replied_engine, turn_deaf deaf]
    exact .waits rfl
  | submit | solve | skip | hint =>
    rw [answer_inactive inactive rfl]
    exact .waits rfl
  | reset => exact .leaves (congrArg State.mode (commit_state _ (some .initial)))
  | ticks | set => cases single
  | signIn | signOut | flush | snapshot | look | reach | await | subscribe | unsubscribe =>
    rw [state_aside rfl]
    exact .waits rfl

theorem performAll_append (first second : List Command) (e : Engine) :
    e.performAll (first ++ second) = (e.performAll first).performAll second := List.foldl_append

-- The countdown that was begun after some commands and has been watched since.
structure Stay (e : Engine) (before stay : List Command) (left : Int) : Prop where
  idle : (e.performAll before).state.mode = .idle
  counting : ∀ part ∈ stay.inits, (e.performAll (before ++ .toggle :: part)).state.mode = .countdown
  grid : ∀ part ∈ stay.inits,
    SameGrid (e.performAll before).state (e.performAll (before ++ .toggle :: part)).state
  remains : (e.performAll (before ++ .toggle :: stay)).state.countdown = some left
  counted : stay.countP Command.isCount + left.toNat = e.config.countdownStart.toNat

variable {before stay : List Command} {left : Int}

theorem Stay.now (run : e.Stay before stay left) :
    (e.performAll (before ++ .toggle :: stay)).state.mode = .countdown ∧
      SameGrid (e.performAll before).state (e.performAll (before ++ .toggle :: stay)).state :=
  have last := mem_inits_self stay
  ⟨run.counting stay last, run.grid stay last⟩

theorem performAll_concat (commands : List Command) (command : Command) (e : Engine) :
    e.performAll (commands ++ [command]) = ((e.performAll commands).perform command).2 :=
  performAll_append commands [command] e

theorem stay_concat (stay : List Command) :
    e.performAll (before ++ .toggle :: (stay ++ [command])) =
      ((e.performAll (before ++ .toggle :: stay)).perform command).2 := by
  rw [← List.cons_append, ← List.append_assoc, performAll_concat]

theorem Stay.longer (run : e.Stay before stay left) {left' : Int}
    (counting : ((e.performAll (before ++ .toggle :: stay)).perform command).2.state.mode = .countdown)
    (grid : SameGrid (e.performAll (before ++ .toggle :: stay)).state
      ((e.performAll (before ++ .toggle :: stay)).perform command).2.state)
    (now : ((e.performAll (before ++ .toggle :: stay)).perform command).2.state.countdown = some left')
    (counted : (if command.isCount then 1 else 0) + left'.toNat = left.toNat) :
    e.Stay before (stay ++ [command]) left' where
  idle := run.idle
  counting := forall_inits_concat run.counting (by rwa [stay_concat])
  grid := forall_inits_concat run.grid (by rw [stay_concat]; exact run.now.2.trans grid)
  remains := by rwa [stay_concat]
  counted := by
    have total := run.counted
    rw [List.countP_append, List.countP_singleton]
    omega

-- From rest, as long as the game has not run.
inductive Waiting (e : Engine) : List Command → Prop where
  | rest {commands : List Command} (idle : (e.performAll commands).state.mode = .idle) :
      Waiting e commands
  | stay {before stay : List Command} {left : Int} (run : e.Stay before stay left) :
      Waiting e (before ++ .toggle :: stay)

variable {commands : List Command}

theorem begins_stay (idle : (e.performAll commands).state.mode = .idle)
    (begun : (e.performAll (commands ++ [.toggle])).state =
      { (e.performAll commands).state with
        mode := .countdown
        countdown := some e.config.countdownStart }) :
    e.Stay commands [] e.config.countdownStart := by
  refine ⟨idle, ?_, ?_, ?_, ?_⟩
  · simp [begun]
  · simp [begun]
    exact ⟨rfl, rfl, rfl, rfl, rfl⟩
  · rw [begun]
  · simp

theorem waiting_rest (single : command.isSingle) (idle : (e.performAll commands).state.mode = .idle)
    (config : (e.performAll commands).config = e.config) : e.Waiting (commands ++ [command]) := by
  have step := rests_perform single idle
  generalize reached : ((e.performAll commands).perform command).2.state = s at step
  cases step with
  | still idle => exact .rest (by rw [performAll_concat, reached, idle])
  | begin =>
    have begun : (e.performAll (commands ++ [.toggle])).state = _ :=
      (congrArg Engine.state (performAll_concat commands .toggle e)).trans reached
    exact .stay (begins_stay idle (config ▸ begun))

theorem waiting_stay (single : command.isSingle) (run : e.Stay before stay left)
    (paused : ((e.performAll (before ++ .toggle :: stay)).perform command).2.state.mode ≠ .running) :
    e.Waiting (before ++ .toggle :: (stay ++ [command])) := by
  obtain ⟨counting, -⟩ := run.now
  have step := counts_perform single counting
  have remains := run.remains
  generalize reached : ((e.performAll (before ++ .toggle :: stay)).perform command).2.state = s
    at step paused
  cases step with
  | waits other =>
    refine .stay (run.longer (reached ▸ counting) (reached ▸ .refl _) (reached ▸ run.remains) ?_)
    simp [other]
  | leaves idle => exact .rest (by rw [stay_concat, reached, idle])
  | less now more =>
    rw [now] at remains
    cases remains
    have longer : e.Stay before (stay ++ [.countdownTick]) (left - 1) := by
      refine run.longer ?_ ?_ ?_ ?_
      · rw [reached]
        exact counting
      · rw [reached]
        exact ⟨rfl, rfl, rfl, rfl, rfl⟩
      · rw [reached]
      · simp only [Command.isCount, if_true]
        omega
    exact .stay longer
  | starts => exact absurd rfl paused
  | stuck none =>
    rw [none] at remains
    cases remains

theorem waiting_run (idle : e.state.mode = .idle) (single : ∀ command ∈ commands, command.isSingle)
    (never : ∀ part ∈ commands.inits, (e.performAll part).state.mode ≠ .running) :
    e.Waiting commands := by
  induction commands using List.reverseRecOn with
  | nil => exact .rest idle
  | append_singleton commands command ih =>
    have ⟨others, last⟩ := List.forall_mem_append.mp single
    have one : command.isSingle := last command List.mem_cons_self
    have earlier : ∀ part ∈ commands.inits, (e.performAll part).state.mode ≠ .running := by
      intro part inside
      refine never part ((List.mem_inits _ _).mpr ?_)
      exact ((List.mem_inits _ _).mp inside).trans (List.prefix_append _ _)
    have paused := never _ (mem_inits_self (commands ++ [command]))
    rw [performAll_concat] at paused
    cases ih others earlier with
    | rest idle =>
      have played := leads_performAll (fun c inside => Command.play_of_single (others c inside)) e
      exact waiting_rest one idle played.config
    | stay run =>
      rw [List.append_assoc, List.cons_append]
      exact waiting_stay one run paused

theorem stay_ends (single : command.isSingle) (run : e.Stay before stay left)
    (running :
      ((e.performAll (before ++ .toggle :: stay)).perform command).2.state.mode = .running) :
    (command = .countdownTick ∨ command = .tick) ∧ left ≤ 0 ∧
      SameGrid (e.performAll before).state
        ((e.performAll (before ++ .toggle :: stay)).perform command).2.state := by
  obtain ⟨counting, grid⟩ := run.now
  have step := counts_perform single counting
  have remains := run.remains
  generalize ((e.performAll (before ++ .toggle :: stay)).perform command).2.state = s at step running ⊢
  cases step with
  | waits | less | stuck =>
    rw [counting] at running
    cases running
  | leaves idle =>
    rw [idle] at running
    cases running
  | starts now done timer =>
    rw [now] at remains
    cases remains
    exact ⟨timer, done, grid.trans ⟨rfl, rfl, rfl, rfl, rfl⟩⟩

theorem stay_before_running (idle : e.state.mode = .idle) {between : List Command}
    (single : ∀ c ∈ between ++ [command], c.isSingle)
    (never : ∀ part ∈ between.inits, (e.performAll part).state.mode ≠ .running)
    (running : (e.performAll (between ++ [command])).state.mode = .running) :
    ∃ before stay, between = before ++ .toggle :: stay ∧
      (command = .countdownTick ∨ command = .tick) ∧
      stay.countP Command.isCount = e.config.countdownStart.toNat ∧
      (e.performAll before).state.mode = .idle ∧
      (∀ part ∈ stay.inits, (e.performAll (before ++ .toggle :: part)).state.mode = .countdown) ∧
      ∀ part ∈ (stay ++ [command]).inits,
        SameGrid (e.performAll before).state (e.performAll (before ++ .toggle :: part)).state := by
  have ⟨others, last⟩ := List.forall_mem_append.mp single
  have one : command.isSingle := last command List.mem_cons_self
  rw [performAll_concat] at running
  cases waiting_run idle others never with
  | rest resting =>
    have step := rests_perform one resting
    generalize ((e.performAll between).perform command).2.state = s at step running
    cases step with
    | still idle =>
      rw [idle] at running
      cases running
    | begin => cases running
  | @stay before stay left run =>
    obtain ⟨timer, done, grid⟩ := stay_ends one run running
    have counted := run.counted
    refine ⟨before, stay, rfl, timer, by omega, run.idle, run.counting, ?_⟩
    exact forall_inits_concat run.grid (by rwa [stay_concat])

-- At any moment of any run: the end of a game, the ways into a running one, and what lies between a
-- game at rest and the next moment at which it runs.
theorem lifecycle (e : Engine) :
    (e.state.mode = .gameOver →
      (∀ command : Command, command.isMove → (e.perform command).2 = e) ∧
        (∀ source, e.Refuses (.submit source)) ∧ e.Refuses .skip ∧ e.Refuses .hint ∧
        ∀ commands : List Command, (∀ command ∈ commands, command.isPlay) → .reset ∉ commands →
          (e.performAll commands).state = e.state) ∧
    (∀ command : Command, command.isSingle → e.state.mode ≠ .running →
      (e.perform command).2.state.mode = .running → e.Starts command) ∧
    ∀ (between : List Command) (last : Command), e.state.mode = .idle →
      (∀ command ∈ between ++ [last], command.isSingle) →
      (∀ part ∈ between.inits, (e.performAll part).state.mode ≠ .running) →
      (e.performAll (between ++ [last])).state.mode = .running →
      ∃ before stay, between = before ++ .toggle :: stay ∧ (last = .countdownTick ∨ last = .tick) ∧
        stay.countP Command.isCount = e.config.countdownStart.toNat ∧
        (e.performAll before).state.mode = .idle ∧
        (∀ part ∈ stay.inits, (e.performAll (before ++ .toggle :: part)).state.mode = .countdown) ∧
        ∀ part ∈ (stay ++ [last]).inits,
          SameGrid (e.performAll before).state (e.performAll (before ++ .toggle :: part)).state := by
  refine ⟨fun ended => ?_, fun _ single still on => starts_running single still on,
    fun _ _ idle single never running => stay_before_running idle single never running⟩
  have inactive : e.state.mode ≠ .challengeActive := by simp [ended]
  obtain ⟨submits, skips, hints⟩ := refuses_inactive inactive
  exact ⟨fun _ move => over_stays ended move, submits, skips, hints,
    fun _ play kept => over_for_good ended play kept⟩

-- A countdown is left in the middle, and the next one ends by the timer of the arena.
def restingGame : Engine := { source := .scripted [] }

def lostGame : Engine :=
  { source := .scripted [], state := { State.initial with mode := .gameOver, reason := some .wall } }

def secondStart : List Command :=
  [.toggle, .countdownTick, .toggle, .direction (.str "up"), .toggle, .tick, .countdownTick,
    .direction (.str "down"), .countdownTick, .countdownTick]

theorem secondStart_lifecycle :
    (lostGame.performAll [.tick, .toggle, .signIn "ada", .skip]).state = lostGame.state ∧
      (restingGame.performAll (secondStart ++ [.tick])).state.mode = .running ∧
      ∃ before stay, secondStart = before ++ .toggle :: stay ∧
        stay.countP Command.isCount = 3 ∧ (restingGame.performAll before).state.mode = .idle ∧
        ∀ part ∈ (stay ++ [Command.tick]).inits, SameGrid (restingGame.performAll before).state
          (restingGame.performAll (before ++ .toggle :: part)).state := by
  have kept : Command.reset ∉ [Command.tick, .toggle, .signIn "ada", .skip] := by simp
  have running : (restingGame.performAll (secondStart ++ [.tick])).state.mode = .running := by
    decide +kernel
  obtain ⟨ended, -, -⟩ := lifecycle lostGame
  obtain ⟨-, -, starting⟩ := lifecycle restingGame
  obtain ⟨before, stay, split, -, counted, idle, -, grid⟩ :=
    starting secondStart .tick rfl (by decide) (by decide +kernel) running
  exact ⟨(ended rfl).2.2.2.2 _ (by decide) kept, running, before, stay, split, counted, idle, grid⟩

end Engine
end ScriptArena.Arena
