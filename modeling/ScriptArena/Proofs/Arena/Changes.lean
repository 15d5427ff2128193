import Mathlib.Logic.Relation
import ScriptArena.Arena.Command

namespace ScriptArena.Arena
namespace State

-- How a snake enters a cell of the grid that is ahead of it and not its own.
inductive Enters (k : Catalog) (c : Config) (s : State) (target : Position) : State → Prop where
  | food (eaten : target ∈ s.food) (free : cell ∉ target :: s.occupied)
      (inside : cell.inBounds c.gridSize = true) :
      Enters k c s target { s with
        snake := s.grown target
        food := s.food.filter (· != target) ++ [cell]
        score := s.score + c.foodPoints }
  | tile (noFood : target ∉ s.food) (found : s.slotAt? target = some slot) :
      Enters k c s target (s.openChallenge k target slot)
  | crash (noFood : target ∉ s.food) (hit : target ∈ s.bugs) (poor : s.score < c.bugPenalty) :
      Enters k c s target { s with
        snake := s.trimmed target
        bugs := s.bugs.filter (· != target)
        mode := .gameOver
        reason := some .bug
        score := 0 }
  | bug (noFood : target ∉ s.food) (hit : target ∈ s.bugs) (rich : c.bugPenalty ≤ s.score) :
      Enters k c s target { s with
        snake := s.trimmed target
        bugs := s.bugs.filter (· != target)
        score := s.score - c.bugPenalty }
  | spawn (noFood : target ∉ s.food) (noBug : target ∉ s.bugs)
      (few : (s.bugs.length : Int) < c.bugFloor) (free : cell ∉ target :: s.occupied)
      (inside : cell.inBounds c.gridSize = true) :
      Enters k c s target { s with snake := s.crept target, bugs := s.bugs ++ [cell] }
  | move (noFood : target ∉ s.food) (noBug : target ∉ s.bugs) :
      Enters k c s target { s with snake := s.crept target }

inductive Changes (k : Catalog) (c : Config) (s : State) : State → Prop where
  -- Steps of a running game.
  | wall (running : s.mode = .running) : Changes k c s (s.turned.ended .wall)
  | itself (running : s.mode = .running) (ahead : s.snake = head :: body)
      (hit : head.moved s.nextDirection ∈ body) : Changes k c s (s.turned.ended .itself)
  | enter (running : s.mode = .running) (ahead : s.snake = head :: body)
      (inside : (head.moved s.nextDirection).inBounds c.gridSize = true)
      (off : head.moved s.nextDirection ∉ body)
      (enters : Enters k c s.turned (head.moved s.nextDirection) s') : Changes k c s s'
  -- The countdown, and pauses.
  | begin (idle : s.mode = .idle) :
      Changes k c s { s with mode := .countdown, countdown := some c.countdownStart }
  | pause (on : s.mode = .running ∨ s.mode = .countdown) :
      Changes k c s { s with mode := .idle, countdown := none }
  | count (counting : s.mode = .countdown) (left : s.countdown = some n) (more : 0 < n) :
      Changes k c s { s with countdown := some (n - 1) }
  | start (counting : s.mode = .countdown) : Changes k c s s.start
  -- The player.
  | turn (d : Direction) (heard : s.takesDirection = true) (free : s.isBlocked c d = false) :
      Changes k c s { s with nextDirection := d }
  | skip (active : s.mode = .challengeActive) :
      Changes k c s { s.closed with mode := .running, results := [] }
  | reveal (current : s.current? = .ok ch) (more : s.hints < ch.hints.length) :
      Changes k c s { s with hints := s.hints + 1 }
  | judge (current : s.current? = .ok ch) (verdicts : List Verdict) :
      Changes k c s { s with results := verdicts }
  | solve (current : s.current? = .ok ch) (verdicts : List Verdict) :
      Changes k c s (({ s with results := verdicts } : State).credit ch).resume
  | reset : Changes k c s .initial

theorem current?_ok {s : State} {ch : Challenge} (current : s.current? = .ok ch) :
    s.mode = .challengeActive ∧ s.active = some ch := by
  unfold current? at current
  split at current
  · rename_i active
    cases current
    exact ⟨‹_›, active⟩
  · cases current

variable {k : Catalog} {c : Config} {s s' : State} {target : Position} {source : Draw.Source}

theorem eatFood_enters {out : Outcome} (eaten : target ∈ s.food)
    (ran : s.eatFood c source target = .ok out) : Enters k c s target out.state := by
  unfold eatFood at ran
  cases found : emptyCell (target :: s.occupied) c.gridSize source with
  | error why =>
    rw [found] at ran
    cases ran
  | ok drawn =>
    obtain ⟨cell, rest⟩ := drawn
    have ⟨free, inside⟩ := emptyCell_free found
    rw [found] at ran
    cases ran
    exact .food eaten free inside

theorem spawnBug_enters {out : Outcome} (noFood : target ∉ s.food) (noBug : target ∉ s.bugs)
    (few : (s.bugs.length : Int) < c.bugFloor) (ran : s.spawnBug c source target = .ok out) :
    Enters k c s target out.state := by
  unfold spawnBug at ran
  cases found : emptyCell (target :: s.occupied) c.gridSize source with
  | error why =>
    rw [found] at ran
    cases ran
  | ok drawn =>
    obtain ⟨cell, rest⟩ := drawn
    have ⟨free, inside⟩ := emptyCell_free found
    rw [found] at ran
    cases ran
    exact .spawn noFood noBug few free inside

theorem hitBug_enters (noFood : target ∉ s.food) (hit : target ∈ s.bugs) :
    Enters k c s target (s.hitBug c source target).state := by
  unfold hitBug
  by_cases poor : s.score - c.bugPenalty < 0
  · rw [if_pos poor]
    exact .crash noFood hit (by omega)
  · rw [if_neg poor]
    exact .bug noFood hit (by omega)

theorem enter_enters {out : Outcome} (ran : s.enter k c source target = .ok out) :
    Enters k c s target out.state := by
  unfold enter at ran
  by_cases eaten : target ∈ s.food
  · rw [if_pos (by simpa using eaten)] at ran
    exact eatFood_enters eaten ran
  rw [if_neg (by simpa using eaten)] at ran
  split at ran
  · rename_i slot found
    cases ran
    exact .tile eaten found
  by_cases hit : target ∈ s.bugs
  · rw [if_pos (by simpa using hit)] at ran
    cases ran
    exact hitBug_enters eaten hit
  rw [if_neg (by simpa using hit)] at ran
  split at ran
  · rename_i few
    exact spawnBug_enters eaten hit few ran
  · cases ran
    exact .move eaten hit

theorem step_changes {out : Outcome} (running : s.mode = .running)
    (ran : s.step k c source = .ok out) : Changes k c s out.state := by
  unfold step at ran
  split at ran
  · cases ran
  · rename_i head body ahead
    dsimp only at ran
    split at ran
    · cases ran
      exact .wall running
    rename_i inside
    split at ran
    · rename_i hit
      cases ran
      exact .itself running ahead (by simpa using hit)
    rename_i off
    exact .enter running ahead (by simpa using inside) (by simpa using off) (enter_enters ran)

theorem advance_changes {out : Outcome} (ran : s.advance k c source = .ok out) :
    out.state = s ∨ Changes k c s out.state := by
  unfold advance at ran
  split at ran
  · rename_i counted
    cases ran
    exact .inr (.start counted.1)
  split at ran
  · rename_i running
    exact .inr (step_changes running ran)
  · cases ran
    exact .inl rfl

theorem countdownTick_cases (ticked : s.countdownTick = some s') :
    s.mode = .countdown ∧ ∃ n, s.countdown = some n ∧
      (0 < n ∧ s' = { s with countdown := some (n - 1) } ∨ ¬ 0 < n ∧ s' = s.start) := by
  unfold countdownTick at ticked
  split at ticked
  · rename_i n counting left
    refine ⟨counting, n, left, ?_⟩
    split at ticked
    · rename_i more
      exact .inl ⟨more, (Option.some.inj ticked).symm⟩
    · rename_i none
      exact .inr ⟨none, (Option.some.inj ticked).symm⟩
  · cases ticked

theorem togglePlay_cases (toggled : s.togglePlay c = some s') :
    (s.mode = .idle ∧ s' = { s with mode := .countdown, countdown := some c.countdownStart }) ∨
      (s.mode = .running ∨ s.mode = .countdown) ∧
        s' = { s with mode := .idle, countdown := none } := by
  unfold togglePlay at toggled
  split at toggled
  · rename_i idle
    exact .inl ⟨idle, (Option.some.inj toggled).symm⟩
  · rename_i running
    exact .inr ⟨.inl running, (Option.some.inj toggled).symm⟩
  · rename_i counting
    exact .inr ⟨.inr counting, (Option.some.inj toggled).symm⟩
  · cases toggled
  · cases toggled

theorem changeDirection_taken {d : Direction} (turned : s.changeDirection c d = some s') :
    s.takesDirection = true ∧ s.isBlocked c d = false ∧ s' = { s with nextDirection := d } := by
  unfold changeDirection at turned
  split at turned
  · cases turned
  · rename_i open_
    have taken : s.takesDirection = true ∧ s.isBlocked c d = false := by simpa using open_
    exact ⟨taken.1, taken.2, (Option.some.inj turned).symm⟩

theorem skipChallenge_ok (skipped : s.skipChallenge = .ok s') :
    s.mode = .challengeActive ∧ s' = { s.closed with mode := .running, results := [] } := by
  unfold skipChallenge at skipped
  split at skipped
  · rename_i active
    exact ⟨active, (Except.ok.inj skipped).symm⟩
  · cases skipped

theorem revealHint_more (revealed : s.revealHint = .ok (some s')) :
    ∃ ch, s.current? = .ok ch ∧ s.hints < ch.hints.length ∧
      s' = { s with hints := s.hints + 1 } := by
  unfold revealHint at revealed
  cases current : s.current? with
  | error why =>
    rw [current] at revealed
    cases revealed
  | ok ch =>
    rw [current] at revealed
    simp only [bind, Except.bind, pure, Except.pure, Except.ok.injEq] at revealed
    split at revealed
    · cases revealed
    · rename_i more
      exact ⟨ch, rfl, by omega, (Option.some.inj revealed).symm⟩

theorem countdownTick_changes (ticked : s.countdownTick = some s') : Changes k c s s' := by
  obtain ⟨counting, n, left, ⟨more, rfl⟩ | ⟨-, rfl⟩⟩ := countdownTick_cases ticked
  · exact .count counting left more
  · exact .start counting

theorem togglePlay_changes (toggled : s.togglePlay c = some s') : Changes k c s s' := by
  obtain ⟨idle, rfl⟩ | ⟨on, rfl⟩ := togglePlay_cases toggled
  · exact .begin idle
  · exact .pause on

theorem changeDirection_changes {d : Direction} (turned : s.changeDirection c d = some s') :
    Changes k c s s' := by
  obtain ⟨heard, free, rfl⟩ := changeDirection_taken turned
  exact .turn d heard free

theorem skipChallenge_changes (skipped : s.skipChallenge = .ok s') : Changes k c s s' := by
  obtain ⟨active, rfl⟩ := skipChallenge_ok skipped
  exact .skip active

theorem revealHint_changes (revealed : s.revealHint = .ok (some s')) : Changes k c s s' := by
  obtain ⟨ch, current, more, rfl⟩ := revealHint_more revealed
  exact .reveal current more

end State

namespace Engine
open State

-- The game of an engine has gone on, under the same rules.
structure Leads (e f : Engine) : Prop where
  catalog : f.catalog = e.catalog
  config : f.config = e.config
  path : Relation.ReflTransGen (Changes e.catalog e.config) e.state f.state

theorem Leads.refl (e : Engine) : Leads e e := ⟨rfl, rfl, .refl⟩

theorem Leads.trans {e f g : Engine} (first : Leads e f) (then_ : Leads f g) : Leads e g := by
  have path := then_.path
  rw [first.catalog, first.config] at path
  exact ⟨then_.catalog.trans first.catalog, then_.config.trans first.config,
    first.path.trans path⟩

-- An engine remembers more than its game.
theorem Leads.same {e f : Engine} (catalog : f.catalog = e.catalog) (config : f.config = e.config)
    (state : f.state = e.state) : Leads e f :=
  ⟨catalog, config, state ▸ .refl⟩

variable {e : Engine}

theorem enter_state (e : Engine) (s : State) (peak : Option Int) : (e.enter s peak).state = s := by
  unfold enter
  dsimp only
  split
  · rfl
  · rfl

theorem leads_enter {f : Engine} {s : State} (catalog : f.catalog = e.catalog)
    (config : f.config = e.config)
    (path : Relation.ReflTransGen (Changes e.catalog e.config) e.state s) (peak : Option Int) :
    Leads e (f.enter s peak) := by
  unfold enter
  dsimp only
  split
  · exact ⟨catalog, config, path⟩
  · exact ⟨catalog, config, path⟩

theorem leads_commit {change : Option State}
    (changes : ∀ s, change = some s → Changes e.catalog e.config e.state s) :
    Leads e (e.commit change) := by
  cases change with
  | none => exact .refl e
  | some s => exact leads_enter rfl rfl (.single (changes s rfl)) none

-- A tick enters what the game has advanced to, or leaves the engine as it is.
theorem tick_enters (e : Engine) : e.tick.2 = e ∨ ∃ s event source,
    e.state.advance e.catalog e.config e.source = .ok ⟨s, event, source⟩ ∧
      e.tick.2 = ({ e with source }.count (.step event)).enter s (some e.state.score) := by
  unfold tick
  split
  · exact .inl rfl
  · exact .inl rfl
  · rename_i s event source _ advanced
    exact .inr ⟨s, event, source, advanced, rfl⟩

theorem skip_commits (e : Engine) : ∃ change, e.skip.2 = e.commit change ∧
    ∀ s, change = some s → e.state.skipChallenge = .ok s := by
  unfold skip
  split
  · exact ⟨none, rfl, fun _ => nofun⟩
  · rename_i s skipped
    exact ⟨some s, rfl, fun _ same => Option.some.inj same ▸ skipped⟩

theorem hint_commits (e : Engine) : ∃ change, e.hint.2 = e.commit change ∧
    ∀ s, change = some s → e.state.revealHint = .ok (some s) := by
  unfold hint
  split
  · rename_i s _ revealed
    exact ⟨some s, rfl, fun _ same => Option.some.inj same ▸ revealed⟩
  · exact ⟨none, rfl, fun _ => nofun⟩
  · exact ⟨none, rfl, fun _ => nofun⟩
  · exact ⟨none, rfl, fun _ => nofun⟩

theorem turn_commits (d : Datum) (e : Engine) : ∃ change, (e.turn d).2 = e.commit change ∧
    ∀ s, change = some s → ∃ d, e.state.changeDirection e.config d = some s := by
  unfold turn
  split
  · rename_i d _
    exact ⟨_, rfl, fun _ turned => ⟨d, turned⟩⟩
  · exact ⟨none, rfl, fun _ => nofun⟩

-- An answer is judged for the challenge that is active; without one nothing happens.
theorem submit_judges (source : String) (e : Engine) : (e.submit source).2 = e ∨
    ∃ ch verdicts, e.state.current? = .ok ch ∧ (e.submit source).2 = e.judged ch verdicts := by
  unfold submit
  split
  · exact .inl rfl
  · rename_i ch current
    exact .inr ⟨ch, _, current, rfl⟩

theorem leads_tick (e : Engine) : Leads e e.tick.2 := by
  obtain same | ⟨s, event, source, advanced, entered⟩ := tick_enters e
  · rw [same]
    exact .refl e
  · rw [entered]
    refine leads_enter (by rfl) (by rfl) ?_ _
    obtain same | changes := advance_changes advanced
    · cases same
      exact .refl
    · exact .single changes

theorem leads_ticks (n : Nat) (e : Engine) : Leads e (e.ticks n).2 := by
  induction n generalizing e with
  | zero => exact .refl e
  | succ n ih =>
    have first := leads_tick e
    unfold ticks
    split
    · rename_i ended
      rw [ended] at first
      exact first
    · rename_i next ended
      rw [ended] at first
      exact first.trans (ih next)

-- What is counted and queued when an answer has solved a challenge.
def rewarded (ch : Challenge) (verdicts : List Verdict) (e : Engine) : Engine :=
  { e.count (.submission ch.id (.ofVerdicts verdicts)) with
    tracker := e.tracker.queueChallenge ch.id }.count (.solved ch.id)

theorem judged_solved (ch : Challenge) (e : Engine) {verdicts : List Verdict}
    (solved : isSolvedBy verdicts = true) :
    e.judged ch verdicts = (e.rewarded ch verdicts).enter
      ({ e.state with results := verdicts }.credit ch).resume none := by
  rw [judged, if_pos solved]
  rfl

theorem judged_failed (ch : Challenge) (e : Engine) {verdicts : List Verdict}
    (failed : ¬ isSolvedBy verdicts = true) :
    e.judged ch verdicts = (e.count (.submission ch.id (.ofVerdicts verdicts))).enter
      { e.state with results := verdicts } none := by
  rw [judged, if_neg failed]
  rfl

theorem leads_judged {ch : Challenge} (current : e.state.current? = .ok ch)
    (verdicts : List Verdict) : Leads e (e.judged ch verdicts) := by
  by_cases solved : isSolvedBy verdicts = true
  · rw [judged_solved ch e solved]
    exact leads_enter (by rfl) (by rfl) (.single (.solve current verdicts)) none
  · rw [judged_failed ch e solved]
    exact leads_enter (by rfl) (by rfl) (.single (.judge current verdicts)) none

theorem leads_submit (source : String) (e : Engine) : Leads e (e.submit source).2 := by
  obtain same | ⟨ch, verdicts, current, judged⟩ := submit_judges source e
  · rw [same]
    exact .refl e
  · rw [judged]
    exact leads_judged current verdicts

theorem leads_skip (e : Engine) : Leads e e.skip.2 := by
  obtain ⟨change, commits, skipped⟩ := skip_commits e
  rw [commits]
  exact leads_commit fun s entered => skipChallenge_changes (skipped s entered)

theorem leads_hint (e : Engine) : Leads e e.hint.2 := by
  obtain ⟨change, commits, revealed⟩ := hint_commits e
  rw [commits]
  exact leads_commit fun s entered => revealHint_changes (revealed s entered)

theorem leads_turn (d : Datum) (e : Engine) : Leads e (e.turn d).2 := by
  obtain ⟨change, commits, turned⟩ := turn_commits d e
  rw [commits]
  refine leads_commit fun s entered => ?_
  obtain ⟨_, turned⟩ := turned s entered
  exact changeDirection_changes turned

theorem leads_signIn (user : String) (e : Engine) : Leads e (e.signIn user).2 := by
  unfold signIn
  split
  · exact .same rfl rfl rfl
  · exact .same rfl rfl rfl

theorem signIn_state (user : String) (e : Engine) : (e.signIn user).2.state = e.state := by
  unfold signIn
  split
  · rfl
  · rfl

theorem replied_engine {α : Type} (reply : α → Reply) (result : Except Refusal α × Engine) :
    (replied reply result).2 = result.2 := by
  unfold replied
  split
  · rfl
  · rfl

theorem entered_signIn (user : String) (e : Engine) :
    (e.perform (.signIn user)).2 = (e.signIn user).2 := by
  simp only [perform]
  split
  · rename_i ended
    rw [ended]
  · rename_i ended
    rw [ended]

end Engine

-- All commands are play, but for the one that hands over a state.
def Command.isPlay : Command → Bool
  | .set _ => false
  | _ => true

namespace Engine
open State

theorem leads_perform {command : Command} (play : command.isPlay) (e : Engine) :
    Leads e (e.perform command).2 := by
  cases command with
  | tick => exact replied_engine _ e.tick ▸ leads_tick e
  | ticks n => exact replied_engine _ (e.ticks n) ▸ leads_ticks n e
  | countdownTick => exact leads_commit fun _ ticked => countdownTick_changes ticked
  | toggle => exact leads_commit fun _ toggled => togglePlay_changes toggled
  | direction d => exact replied_engine _ (e.turn d) ▸ leads_turn d e
  | submit source => exact replied_engine _ (e.submit source) ▸ leads_submit source e
  | solve => exact replied_engine _ (e.submit _) ▸ leads_submit _ e
  | skip => exact replied_engine _ e.skip ▸ leads_skip e
  | hint => exact replied_engine _ e.hint ▸ leads_hint e
  | reset => exact leads_enter (by rfl) (by rfl) (.single .reset) none
  | signIn user => exact entered_signIn user e ▸ leads_signIn user e
  | set s => cases play
  | signOut | flush | snapshot | look | reach | await | subscribe | unsubscribe =>
    exact .same rfl rfl rfl

-- The commands one after the other. One that is refused is passed over.
def performAll (commands : List Command) (e : Engine) : Engine :=
  commands.foldl (fun e command => (e.perform command).2) e

theorem leads_performAll {commands : List Command} (play : ∀ command ∈ commands, command.isPlay)
    (e : Engine) : Leads e (e.performAll commands) := by
  induction commands generalizing e with
  | nil => exact .refl e
  | cons command rest ih =>
    have ⟨first, others⟩ := List.forall_mem_cons.mp play
    exact (leads_perform first e).trans (ih others _)

-- What a new game has and no change takes away, a game has however it is played.
theorem kept_performAll {kept : State → Prop} (e : Engine) (fresh : e.state = .initial)
    (initial : kept .initial)
    (changes : ∀ s s', kept s → Changes e.catalog e.config s s' → kept s')
    {commands : List Command} (play : ∀ command ∈ commands, command.isPlay) :
    kept (e.performAll commands).state := by
  have path := (leads_performAll play e).path
  generalize (e.performAll commands).state = s at path
  induction path with
  | refl => exact fresh ▸ initial
  | tail _ change ih => exact changes _ _ ih change

end Engine
end ScriptArena.Arena
