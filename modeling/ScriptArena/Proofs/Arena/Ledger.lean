import Mathlib.Algebra.Ring.Int.Defs
import Mathlib.Data.List.Nodup
import ScriptArena.Proofs.Arena.Endings

namespace ScriptArena.Arena

-- What brought or took points. Bugs tell how long the snake was when it hit them; the last one may
-- end the game.
inductive Entry where
  | meal
  | solved (tile : Option Slot) (challenge : Challenge)
  | bug (length : Nat)
  | crash (length : Nat)

-- The newest entry comes first.
abbrev Ledger := List Entry

namespace Entry

def isMeal : Entry → Bool
  | .meal => true
  | _ => false

def isBug : Entry → Bool
  | .bug _ => true
  | _ => false

-- A snake of one cell has nothing to lose.
def isBite : Entry → Bool
  | .bug length | .crash length => 2 ≤ length
  | _ => false

def solved? : Entry → Option (Option Slot × Challenge)
  | .solved tile challenge => some (tile, challenge)
  | _ => none

-- The entry for an event that a tick has told.
def ofEvent? (event : Event) (length : Nat) (reason : Option EndReason) : Option Entry :=
  match event with
  | .food => some .meal
  | .bug => some (.bug length)
  | .gameOver => if reason = some .bug then some (.crash length) else none
  | _ => none

end Entry

namespace Ledger

def meals (l : Ledger) : Nat := l.countP Entry.isMeal

def bugs (l : Ledger) : Nat := l.countP Entry.isBug

def bites (l : Ledger) : Nat := l.countP Entry.isBite

def solved (l : Ledger) : List (Option Slot × Challenge) := l.filterMap Entry.solved?

def balance (c : Config) (l : Ledger) : Int :=
  c.foodPoints * l.meals + (l.solved.map (·.2.points)).sum - c.bugPenalty * l.bugs

variable {c : Config} {l : Ledger}

theorem meals_cons (entry : Entry) :
    meals (entry :: l) = meals l + if entry.isMeal then 1 else 0 := List.countP_cons

theorem bugs_cons (entry : Entry) :
    bugs (entry :: l) = bugs l + if entry.isBug then 1 else 0 := List.countP_cons

theorem bites_cons (entry : Entry) :
    bites (entry :: l) = bites l + if entry.isBite then 1 else 0 := List.countP_cons

theorem balance_meal : balance c (.meal :: l) = balance c l + c.foodPoints := by
  have more : meals (.meal :: l) = meals l + 1 := meals_cons .meal
  have same : bugs (.meal :: l) = bugs l := bugs_cons .meal
  have none : solved (.meal :: l) = solved l := rfl
  rw [balance, more, same, none, balance, Int.natCast_succ, Int.mul_add]
  omega

theorem balance_bug (length : Nat) :
    balance c (.bug length :: l) = balance c l - c.bugPenalty := by
  have more : bugs (.bug length :: l) = bugs l + 1 := bugs_cons (.bug length)
  have same : meals (.bug length :: l) = meals l := meals_cons (.bug length)
  have none : solved (.bug length :: l) = solved l := rfl
  rw [balance, more, same, none, balance, Int.natCast_succ, Int.mul_add]
  omega

theorem balance_solved (tile : Option Slot) (ch : Challenge) :
    balance c (.solved tile ch :: l) = balance c l + ch.points := by
  have more : solved (.solved tile ch :: l) = (tile, ch) :: solved l := rfl
  have meals : meals (.solved tile ch :: l) = meals l := meals_cons (.solved tile ch)
  have bugs : bugs (.solved tile ch :: l) = bugs l := bugs_cons (.solved tile ch)
  rw [balance, more, meals, bugs, balance, List.map_cons, List.sum_cons]
  dsimp only
  omega

end Ledger

namespace State

variable {k : Catalog} {c : Config} {s s' : State} {l : Ledger} {target : Position}
  {source : Draw.Source}

-- Only a game that is over has a reason, and an active challenge has one of the tiles.
structure Orderly (s : State) : Prop where
  ended : s.reason.isSome → s.mode = .gameOver
  tile : s.mode = .challengeActive → ∃ slot ∈ s.slots, s.activeSlot = some slot

theorem Orderly.unended (orderly : Orderly s) (mode : s.mode ≠ .gameOver) : s.reason = none :=
  Option.not_isSome_iff_eq_none.mp fun ended => mode (orderly.ended ended)

theorem orderly_plain (reason : s.reason = none) (mode : s.mode ≠ .challengeActive) : Orderly s :=
  ⟨by simp [reason], fun active => absurd active mode⟩

theorem orderly_over (mode : s.mode = .gameOver) : Orderly s := ⟨fun _ => mode, by simp [mode]⟩

theorem orderly_enters (orderly : Orderly s) (running : s.mode = .running)
    (enters : Enters k c s target s') : Orderly s' := by
  have unended := orderly.unended (by simp [running])
  cases enters with
  | tile noFood found =>
    exact ⟨by simp [openChallenge, unended], fun _ => ⟨_, List.mem_of_find?_eq_some found, rfl⟩⟩
  | crash => exact orderly_over rfl
  | food | bug | spawn | move => exact orderly_plain unended (by simp [running])

theorem orderly_changes (orderly : Orderly s) (changes : Changes k c s s') : Orderly s' := by
  have unended := orderly.unended
  cases changes with
  | wall | itself => exact orderly_over rfl
  | enter running _ _ _ enters =>
    exact orderly_enters (s := s.turned) ⟨orderly.ended, orderly.tile⟩ running enters
  | begin idle => exact orderly_plain (unended (by simp [idle])) nofun
  | pause on =>
    exact orderly_plain (unended (by rcases on with on | on <;> simp [on])) nofun
  | count counting => exact orderly_plain (unended (by simp [counting])) (by simp [counting])
  | start counting => exact orderly_plain (unended (by simp [counting])) nofun
  | skip active => exact orderly_plain (unended (by simp [active])) nofun
  | solve current =>
    exact orderly_plain (unended (by simp [(current?_ok current).1])) nofun
  | reset => exact orderly_plain rfl nofun
  | turn | reveal | judge => exact ⟨orderly.ended, orderly.tile⟩

structure Balanced (c : Config) (s : State) (l : Ledger) : Prop where
  score : s.reason ≠ some .bug → s.score = l.balance c
  crashed : s.reason = some .bug → s.score = 0 ∧
    ∃ length earlier, l = .crash length :: earlier ∧ Ledger.balance c earlier < c.bugPenalty
  length : s.snake.length + l.bites = 1 + l.meals
  tiles : (l.solved.map (·.1) ++ s.slots.map some).Perm (initial.slots.map some)

theorem balanced_initial : Balanced c .initial [] :=
  ⟨fun _ => by simp [Ledger.balance, Ledger.meals, Ledger.bugs, Ledger.solved, initial], nofun, rfl,
    .refl _⟩

-- Only these four matter.
theorem Balanced.frame (balanced : Balanced c s l) (score : s'.score = s.score)
    (length : s'.snake.length = s.snake.length) (slots : s'.slots = s.slots)
    (reason : s'.reason = some .bug ↔ s.reason = some .bug) : Balanced c s' l where
  score := fun open_ => by rw [score, balanced.score (mt reason.mpr open_)]
  crashed := fun ended => by
    rw [score]
    exact balanced.crashed (reason.mp ended)
  length := length ▸ balanced.length
  tiles := slots ▸ balanced.tiles

-- Each tile is there once, so one goes when a challenge is solved.
theorem Balanced.slots_nodup (balanced : Balanced c s l) : s.slots.Nodup := by
  have initially : (initial.slots.map some).Nodup := by decide
  have now := balanced.tiles.nodup_iff.mpr initially
  exact List.Nodup.of_map _ (List.nodup_append.mp now).2.1

theorem Balanced.paid (balanced : Balanced c s l) : l.solved.length + s.slots.length = 3 := by
  have counted := balanced.tiles.length_eq
  simpa [initial] using counted

-- The books balance after a step, once what it tells of is in the ledger.
abbrev Booked (c : Config) (s : State) (l : Ledger) (out : Outcome) : Prop :=
  Balanced c out.state ((Entry.ofEvent? out.event s.snake.length out.state.reason).toList ++ l)

theorem length_crept (target : Position) : (s.crept target).length = s.snake.length := by
  simp [crept, grown]

theorem length_trimmed (target : Position) :
    (s.trimmed target).length = if 2 ≤ s.snake.length then s.snake.length - 1 else s.snake.length := by
  unfold trimmed
  have grows : (s.grown target).length = s.snake.length + 1 := rfl
  have creeps := length_crept (s := s) target
  by_cases long : 2 ≤ s.snake.length
  · rw [if_pos (by omega), if_pos long, List.length_dropLast, creeps]
  · rw [if_neg (by omega), if_neg long, creeps]

section
variable (balanced : Balanced c s l) (unended : s.reason = none)
include balanced unended

theorem balanced_eatFood {out : Outcome} (ran : s.eatFood c source target = .ok out) :
    Booked c s l out := by
  have open_ : s.reason ≠ some .bug := by simp [unended]
  unfold eatFood at ran
  cases found : emptyCell (target :: s.occupied) c.gridSize source with
  | error why =>
    rw [found] at ran
    cases ran
  | ok drawn =>
    rw [found] at ran
    cases ran
    refine ⟨fun _ => ?_, fun ended => absurd ended open_, ?_, balanced.tiles⟩
    · have before := balanced.score open_
      have after := Ledger.balance_meal (c := c) (l := l)
      exact (congrArg (· + c.foodPoints) before).trans after.symm
    · have before := balanced.length
      have bites : Ledger.bites (.meal :: l) = Ledger.bites l := Ledger.bites_cons .meal
      have meals : Ledger.meals (.meal :: l) = Ledger.meals l + 1 := Ledger.meals_cons .meal
      change s.snake.length + 1 + Ledger.bites (.meal :: l) = 1 + Ledger.meals (.meal :: l)
      omega

-- Every bug is entered, whether the score can bear it or not.
theorem balanced_hitBug : Booked c s l (s.hitBug c source target) := by
  have open_ : s.reason ≠ some .bug := by simp [unended]
  have before := balanced.length
  have scored := balanced.score open_
  have shrinks : ∀ entry : Entry, entry.isMeal = false → entry.isBite = decide (2 ≤ s.snake.length) →
      (s.trimmed target).length + Ledger.bites (entry :: l) = 1 + Ledger.meals (entry :: l) := by
    intro entry noMeal bite
    rw [length_trimmed, Ledger.bites_cons, Ledger.meals_cons, noMeal, bite]
    by_cases long : 2 ≤ s.snake.length
    · simp only [long, if_true, decide_true, Bool.false_eq_true, if_false]
      omega
    · simp only [long, if_false, decide_false, Bool.false_eq_true]
      omega
  unfold hitBug
  by_cases poor : s.score - c.bugPenalty < 0
  · rw [if_pos poor]
    refine ⟨fun still => absurd rfl still, fun _ => ⟨rfl, _, l, rfl, by omega⟩, ?_, balanced.tiles⟩
    exact shrinks (.crash s.snake.length) rfl rfl
  · rw [if_neg poor]
    refine ⟨fun _ => ?_, fun ended => absurd ended open_, ?_, balanced.tiles⟩
    · have after := Ledger.balance_bug (c := c) (l := l) s.snake.length
      exact (congrArg (· - c.bugPenalty) scored).trans after.symm
    · exact shrinks (.bug s.snake.length) rfl rfl

omit unended in
theorem balanced_spawnBug {out : Outcome} (ran : s.spawnBug c source target = .ok out) :
    Booked c s l out := by
  unfold spawnBug at ran
  cases found : emptyCell (target :: s.occupied) c.gridSize source with
  | error why =>
    rw [found] at ran
    cases ran
  | ok drawn =>
    rw [found] at ran
    cases ran
    exact balanced.frame rfl (length_crept target) rfl .rfl

theorem balanced_enter {out : Outcome} (ran : s.enter k c source target = .ok out) :
    Booked c s l out := by
  unfold enter at ran
  split at ran
  · exact balanced_eatFood balanced unended ran
  split at ran
  · cases ran
    exact balanced.frame rfl (length_crept target) rfl .rfl
  split at ran
  · cases ran
    exact balanced_hitBug balanced unended
  split at ran
  · exact balanced_spawnBug balanced ran
  · cases ran
    exact balanced.frame rfl (length_crept target) rfl .rfl

theorem balanced_step {out : Outcome} (ran : s.step k c source = .ok out) : Booked c s l out := by
  have turned : Balanced c s.turned l := balanced.frame rfl rfl rfl .rfl
  unfold step at ran
  split at ran
  · cases ran
  dsimp only at ran
  split at ran
  · cases ran
    exact balanced.frame rfl rfl rfl (by simp [ended, unended])
  split at ran
  · cases ran
    exact balanced.frame rfl rfl rfl (by simp [ended, unended])
  · exact balanced_enter turned unended ran

end

theorem balanced_advance (balanced : Balanced c s l) (orderly : Orderly s) {out : Outcome}
    (ran : s.advance k c source = .ok out) :
    Booked c s l out := by
  unfold advance at ran
  split at ran
  · cases ran
    exact balanced.frame rfl rfl rfl .rfl
  split at ran
  · rename_i running
    exact balanced_step balanced (orderly.unended (by simp [running])) ran
  · cases ran
    exact balanced

theorem others_eq_erase {slots : List Slot} (distinct : slots.Nodup) (slot : Slot) :
    slots.filter (some · != some slot) = slots.erase slot := by
  rw [distinct.erase_eq_filter]
  refine List.filter_congr fun other _ => ?_
  rw [Bool.eq_iff_iff]
  simp

-- The tile of the solved challenge moves into the ledger.
theorem balanced_solve (balanced : Balanced c s l) (orderly : Orderly s) {ch : Challenge}
    (current : s.current? = .ok ch) (verdicts : List Verdict) :
    Balanced c (({ s with results := verdicts } : State).credit ch).resume
      (.solved s.activeSlot ch :: l) := by
  obtain ⟨active, -⟩ := current?_ok current
  have open_ : s.reason ≠ some .bug := by simp [orderly.unended (by simp [active])]
  obtain ⟨slot, stands, focused⟩ := orderly.tile active
  refine ⟨fun _ => ?_, fun ended => absurd ended open_, ?_, ?_⟩
  · have before := balanced.score open_
    have after := Ledger.balance_solved (c := c) (l := l) s.activeSlot ch
    exact (congrArg (· + ch.points) before).trans after.symm
  · have bites := Ledger.bites_cons (l := l) (.solved s.activeSlot ch)
    have meals := Ledger.meals_cons (l := l) (.solved s.activeSlot ch)
    simp only [Entry.isBite, Entry.isMeal, Bool.false_eq_true, if_false, Nat.add_zero] at bites meals
    rw [bites, meals]
    exact balanced.length
  · have others : s.slots.filter (some · != s.activeSlot) = s.slots.erase slot := by
      rw [focused, others_eq_erase balanced.slots_nodup]
    have stood : (some slot :: (s.slots.erase slot).map some).Perm (s.slots.map some) :=
      (List.perm_cons_erase stands).symm.map some
    change (s.activeSlot :: (l.solved.map (·.1) ++
      (s.slots.filter (some · != s.activeSlot)).map some)).Perm _
    rw [others, focused]
    exact List.perm_middle.symm.trans ((stood.append_left _).trans balanced.tiles)

structure SameBooks (s s' : State) : Prop where
  score : s'.score = s.score
  snake : s'.snake = s.snake
  slots : s'.slots = s.slots
  reason : s'.reason = s.reason

theorem Balanced.same (balanced : Balanced c s l) (same : SameBooks s s') : Balanced c s' l :=
  balanced.frame same.score (by rw [same.snake]) same.slots (by rw [same.reason])

theorem countdownTick_same (ticked : s.countdownTick = some s') : SameBooks s s' := by
  obtain ⟨-, n, -, ⟨-, rfl⟩ | ⟨-, rfl⟩⟩ := countdownTick_cases ticked
  · exact ⟨rfl, rfl, rfl, rfl⟩
  · exact ⟨rfl, rfl, rfl, rfl⟩

theorem togglePlay_same (toggled : s.togglePlay c = some s') : SameBooks s s' := by
  obtain ⟨-, rfl⟩ | ⟨-, rfl⟩ := togglePlay_cases toggled
  · exact ⟨rfl, rfl, rfl, rfl⟩
  · exact ⟨rfl, rfl, rfl, rfl⟩

theorem changeDirection_same {d : Direction} (turned : s.changeDirection c d = some s') :
    SameBooks s s' := by
  obtain ⟨-, -, rfl⟩ := changeDirection_taken turned
  exact ⟨rfl, rfl, rfl, rfl⟩

theorem skipChallenge_same (skipped : s.skipChallenge = .ok s') : SameBooks s s' := by
  obtain ⟨-, rfl⟩ := skipChallenge_ok skipped
  exact ⟨rfl, rfl, rfl, rfl⟩

theorem revealHint_same (revealed : s.revealHint = .ok (some s')) : SameBooks s s' := by
  obtain ⟨ch, -, -, rfl⟩ := revealHint_more revealed
  exact ⟨rfl, rfl, rfl, rfl⟩

end State

namespace Engine
open State

-- The entries of a command: those of its ticks, and the challenge that a passing submission solves.
def tickItem? (e : Engine) : Option Entry :=
  match e.tick with
  | (.ok event, f) => Entry.ofEvent? event e.state.snake.length f.state.reason
  | (.error _, _) => none

def submitItem? (source : String) (e : Engine) : Option Entry :=
  match (e.submit source).1 with
  | .ok verdicts =>
    if isSolvedBy verdicts then e.state.active.map (.solved e.state.activeSlot ·) else none
  | .error _ => none

def enterTicks : Nat → Engine → Ledger → Ledger
  | 0, _, l => l
  | n + 1, e, l => enterTicks n e.tick.2 (e.tickItem?.toList ++ l)

def enterCommand (command : Command) (e : Engine) (l : Ledger) : Ledger :=
  match command with
  | .tick => e.tickItem?.toList ++ l
  | .ticks n => enterTicks n e l
  | .submit source => (e.submitItem? source).toList ++ l
  | .solve => (e.submitItem? e.activeSolution).toList ++ l
  | .reset => []
  | _ => l

-- The ledger of the game that is on after the commands.
def ledger : List Command → Engine → Ledger → Ledger
  | [], _, l => l
  | command :: rest, e, l => ledger rest (e.perform command).2 (e.enterCommand command l)

variable {e f : Engine} {s : State} {l : Ledger}

theorem balanced_commit (balanced : Balanced e.config e.state l) {change : Option State}
    (same : ∀ s, change = some s → SameBooks e.state s) :
    Balanced e.config (e.commit change).state l := by
  cases change with
  | none => exact balanced
  | some s =>
    rw [commit, enter_state]
    exact balanced.same (same s rfl)

theorem balanced_tick (balanced : Balanced e.config e.state l) (orderly : Orderly e.state) :
    Balanced e.config e.tick.2.state (e.tickItem?.toList ++ l) := by
  unfold tickItem? tick
  cases advanced : e.state.advance e.catalog e.config e.source with
  | error why => exact balanced
  | ok out =>
    have after := balanced_advance balanced orderly advanced
    obtain ⟨s, event, source⟩ := out
    cases event with
    | none => exact balanced
    | _ =>
      dsimp only
      rw [enter_state]
      exact after

-- A tick that fails changes nothing, so those behind it fail too.
theorem enterTicks_failed {why : Refusal} (failed : e.tick = (.error why, e)) (n : Nat) :
    enterTicks n e l = l := by
  induction n with
  | zero => rfl
  | succ n ih =>
    have none : e.tickItem? = none := by rw [tickItem?, failed]
    rw [enterTicks, none, failed]
    exact ih

theorem tick_failed {why : Refusal} (failed : e.tick = (.error why, f)) : f = e := by
  unfold tick at failed
  split at failed
  · cases failed
    rfl
  · cases failed
  · cases failed

theorem orderly_leads (orderly : Orderly e.state) (leads : Leads e f) : Orderly f.state := by
  have path := leads.path
  generalize f.state = s at path
  induction path with
  | refl => exact orderly
  | tail _ changes ih => exact orderly_changes ih changes

theorem balanced_ticks (n : Nat) (balanced : Balanced e.config e.state l)
    (orderly : Orderly e.state) : Balanced e.config (e.ticks n).2.state (enterTicks n e l) := by
  induction n generalizing e l with
  | zero => exact balanced
  | succ n ih =>
    have leads := leads_tick e
    have after := balanced_tick balanced orderly
    unfold ticks
    split
    · rename_i why f ended
      cases tick_failed ended
      rw [enterTicks_failed ended]
      exact balanced
    · rename_i event f ended
      rw [enterTicks]
      rw [ended] at after leads ⊢
      rw [← leads.config] at after ⊢
      exact ih after (orderly_leads orderly leads)

theorem balanced_submit (source : String) (balanced : Balanced e.config e.state l)
    (orderly : Orderly e.state) :
    Balanced e.config (e.submit source).2.state ((e.submitItem? source).toList ++ l) := by
  unfold submitItem? submit
  cases current : e.state.current? with
  | error why => exact balanced
  | ok ch =>
    dsimp only
    generalize Judge.evaluate ch e.limits source ch.testCases = verdicts
    rw [(current?_ok current).2]
    by_cases passed : isSolvedBy verdicts = true
    · rw [if_pos passed, judged_solved ch e passed, enter_state]
      exact balanced_solve balanced orderly current verdicts
    · rw [if_neg passed, judged_failed ch e passed, enter_state]
      exact balanced.same ⟨rfl, rfl, rfl, rfl⟩

theorem balanced_skip (balanced : Balanced e.config e.state l) :
    Balanced e.config e.skip.2.state l := by
  obtain ⟨change, commits, skipped⟩ := skip_commits e
  rw [commits]
  exact balanced_commit balanced fun s entered => skipChallenge_same (skipped s entered)

theorem balanced_hint (balanced : Balanced e.config e.state l) :
    Balanced e.config e.hint.2.state l := by
  obtain ⟨change, commits, revealed⟩ := hint_commits e
  rw [commits]
  exact balanced_commit balanced fun s entered => revealHint_same (revealed s entered)

theorem balanced_turn (d : Datum) (balanced : Balanced e.config e.state l) :
    Balanced e.config (e.turn d).2.state l := by
  obtain ⟨change, commits, turned⟩ := turn_commits d e
  rw [commits]
  refine balanced_commit balanced fun s entered => ?_
  obtain ⟨_, turned⟩ := turned s entered
  exact changeDirection_same turned

theorem balanced_perform {command : Command} (play : command.isPlay)
    (balanced : Balanced e.config e.state l) (orderly : Orderly e.state) :
    Balanced e.config (e.perform command).2.state (e.enterCommand command l) := by
  cases command with
  | tick => exact replied_engine _ e.tick ▸ balanced_tick balanced orderly
  | ticks n => exact replied_engine _ (e.ticks n) ▸ balanced_ticks n balanced orderly
  | countdownTick => exact balanced_commit balanced fun _ ticked => countdownTick_same ticked
  | toggle => exact balanced_commit balanced fun _ toggled => togglePlay_same toggled
  | direction d => exact replied_engine _ (e.turn d) ▸ balanced_turn d balanced
  | submit source => exact replied_engine _ (e.submit source) ▸ balanced_submit source balanced orderly
  | solve => exact replied_engine _ (e.submit _) ▸ balanced_submit _ balanced orderly
  | skip => exact replied_engine _ e.skip ▸ balanced_skip balanced
  | hint => exact replied_engine _ e.hint ▸ balanced_hint balanced
  | reset =>
    change Balanced _ (Engine.enter .initial none _).state _
    rw [enter_state]
    exact balanced_initial
  | signIn user =>
    rw [entered_signIn, signIn_state]
    exact balanced
  | set => cases play
  | signOut | flush | snapshot | look | reach | await | subscribe | unsubscribe => exact balanced

theorem balanced_performAll {commands : List Command} (play : ∀ command ∈ commands, command.isPlay)
    (balanced : Balanced e.config e.state l) (orderly : Orderly e.state) :
    Balanced e.config (e.performAll commands).state (ledger commands e l) := by
  induction commands generalizing e l with
  | nil => exact balanced
  | cons command rest ih =>
    have ⟨first, others⟩ := List.forall_mem_cons.mp play
    have leads := leads_perform first e
    have after := balanced_perform first balanced orderly
    rw [← leads.config] at after ⊢
    exact ih others after (orderly_leads orderly leads)

-- Whatever the catalog, the rules, the draws, the store and the listeners are. The score is what the
-- ledger of the game tells. A crash takes all of it, when it was less than a bug costs; what was in
-- the ledger before it tells so. Each tile pays at most once.
theorem ledger_balanced (e : Engine) (fresh : e.state = .initial) {commands : List Command}
    (play : ∀ command ∈ commands, command.isPlay) :
    (e.performAll commands).state.Balanced e.config (e.ledger commands []) ∧
      (Ledger.solved (e.ledger commands [])).length + (e.performAll commands).state.slots.length = 3 ∧
      (0 ≤ e.config.foodPoints → (∀ ch ∈ e.catalog.toList, 0 ≤ ch.points) →
        0 ≤ (e.performAll commands).state.score) := by
  have initially : Balanced e.config e.state [] := fresh ▸ balanced_initial
  have orderly : Orderly e.state := fresh ▸ orderly_plain rfl nofun
  have balanced := balanced_performAll play initially orderly
  refine ⟨balanced, balanced.paid, fun food points => ?_⟩
  have solvent : e.state.Solvent := fresh ▸ solvent_initial
  exact (solvent_leads food points solvent (leads_performAll play e)).score

-- The commands with the ledger beside them.
def performBooked (e : Engine) : List Command → Ledger → Engine × Ledger
  | [], l => (e, l)
  | command :: rest, l => performBooked (e.perform command).2 rest (e.enterCommand command l)

theorem performBooked_eq (commands : List Command) :
    e.performBooked commands l = (e.performAll commands, e.ledger commands l) := by
  induction commands generalizing e l with
  | nil => rfl
  | cons command rest ih => exact ih

-- A solved challenge, a bug, a meal, and a bug that the rest of the score cannot bear.
def dearBugs : Engine := { config := { bugPenalty := 120 }, source := .scripted [0, 0, 1, 1] }

def solveAndCrash : List Command :=
  .toggle :: List.replicate 4 .countdownTick ++ [.ticks 4, .direction (.str "up"), .ticks 2, .solve,
    .direction (.str "right"), .ticks 2, .direction (.str "up"), .ticks 2,
    .direction (.str "right"), .ticks 1, .direction (.str "down"), .ticks 7,
    .direction (.str "left"), .ticks 2, .direction (.str "down"), .ticks 1,
    .direction (.str "left"), .ticks 4, .toggle]

theorem solveAndCrash_balanced :
    dearBugs.state = .initial ∧ (∀ command ∈ solveAndCrash, command.isPlay) ∧
      (dearBugs.performAll solveAndCrash).state.reason = some .bug ∧
      (Ledger.meals (dearBugs.ledger solveAndCrash []),
        Ledger.bugs (dearBugs.ledger solveAndCrash []),
        Ledger.bites (dearBugs.ledger solveAndCrash []),
        Ledger.balance dearBugs.config (dearBugs.ledger solveAndCrash [])) = (1, 1, 1, 90) ∧
      (dearBugs.performAll solveAndCrash).state.Balanced dearBugs.config
        (dearBugs.ledger solveAndCrash []) := by
  have told : ((dearBugs.performBooked solveAndCrash []).1.state.reason,
      Ledger.meals (dearBugs.performBooked solveAndCrash []).2,
      Ledger.bugs (dearBugs.performBooked solveAndCrash []).2,
      Ledger.bites (dearBugs.performBooked solveAndCrash []).2,
      Ledger.balance dearBugs.config (dearBugs.performBooked solveAndCrash []).2) =
      (some .bug, 1, 1, 1, 90) := by decide +kernel
  simp only [performBooked_eq] at told
  obtain ⟨reason, entered⟩ := Prod.mk.inj told
  exact ⟨rfl, by decide, reason, entered, (ledger_balanced dearBugs rfl (by decide)).1⟩

end Engine
end ScriptArena.Arena
