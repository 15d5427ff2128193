import ScriptArena.Proofs.Arena.Changes
import ScriptArena.Proofs.Progress.HighScores

namespace ScriptArena.Arena
namespace State

-- The game is over, and was not before.
def Ends (s s' : State) : Prop := s'.mode = .gameOver ∧ s.mode ≠ .gameOver

-- The score is not below zero, and the active challenge does not take it there.
structure Solvent (s : State) : Prop where
  score : 0 ≤ s.score
  points : ∀ ch, s.active = some ch → 0 ≤ ch.points

variable {k : Catalog} {c : Config} {s s' : State} {target : Position}

theorem atIndex_mem (k : Catalog) (index : Int) : k.atIndex index ∈ k.toList :=
  List.get_mem _ _

theorem solvent_initial : Solvent .initial := ⟨Int.le_refl 0, nofun⟩

theorem Solvent.frame (solvent : Solvent s) (score : s'.score = s.score)
    (active : s'.active = s.active ∨ s'.active = none) : Solvent s' := by
  refine ⟨score ▸ solvent.score, fun ch found => ?_⟩
  rcases active with same | none
  · exact solvent.points ch (same ▸ found)
  · rw [none] at found
    cases found

theorem solvent_enters (food : 0 ≤ c.foodPoints) (points : ∀ ch ∈ k.toList, 0 ≤ ch.points)
    (solvent : Solvent s) (enters : Enters k c s target s') : Solvent s' := by
  have enough := solvent.score
  cases enters with
  | food => exact ⟨Int.add_nonneg enough food, solvent.points⟩
  | tile =>
    refine ⟨enough, fun ch found => ?_⟩
    cases found
    exact points _ (atIndex_mem k _)
  | crash => exact ⟨Int.le_refl 0, solvent.points⟩
  | bug _ _ rich => exact ⟨Int.sub_nonneg_of_le rich, solvent.points⟩
  | spawn | move => exact solvent.frame rfl (.inl rfl)

theorem solvent_changes (food : 0 ≤ c.foodPoints) (points : ∀ ch ∈ k.toList, 0 ≤ ch.points)
    (solvent : Solvent s) (changes : Changes k c s s') : Solvent s' := by
  cases changes with
  | enter _ _ _ _ enters =>
    have turned : Solvent s.turned := solvent.frame rfl (.inl rfl)
    exact solvent_enters food points turned enters
  | solve current verdicts =>
    have worth := solvent.points _ (current?_ok current).2
    exact ⟨Int.add_nonneg solvent.score worth, nofun⟩
  | skip => exact solvent.frame rfl (.inr rfl)
  | reset => exact solvent_initial
  | wall | itself | begin | pause | count | start | turn | reveal | judge =>
    exact solvent.frame rfl (.inl rfl)

-- The last step leaves the score as it is, or takes all of it.
theorem score_of_ends (changes : Changes k c s s') (ends : Ends s s') :
    s'.score = s.score ∨ s'.score = 0 := by
  obtain ⟨lost, playing⟩ := ends
  cases changes with
  | wall | itself => exact .inl rfl
  | enter running _ _ _ enters =>
    cases enters with
    | crash => exact .inr rfl
    | tile => cases lost
    | food | bug | spawn | move => exact absurd lost playing
  | begin | pause | start | skip | solve | reset => cases lost
  | count | turn | reveal | judge => exact absurd lost playing

theorem countdownTick_on (ticked : s.countdownTick = some s') : ¬ Ends s s' := by
  rintro ⟨lost, playing⟩
  obtain ⟨-, n, -, ⟨-, rfl⟩ | ⟨-, rfl⟩⟩ := countdownTick_cases ticked
  · exact playing lost
  · cases lost

theorem togglePlay_on (toggled : s.togglePlay c = some s') : ¬ Ends s s' := by
  rintro ⟨lost, -⟩
  obtain ⟨-, rfl⟩ | ⟨-, rfl⟩ := togglePlay_cases toggled
  · cases lost
  · cases lost

theorem changeDirection_on {d : Direction} (turned : s.changeDirection c d = some s') :
    ¬ Ends s s' := by
  rintro ⟨lost, playing⟩
  obtain ⟨-, -, rfl⟩ := changeDirection_taken turned
  exact playing lost

theorem skipChallenge_on (skipped : s.skipChallenge = .ok s') : ¬ Ends s s' := by
  rintro ⟨lost, -⟩
  obtain ⟨-, rfl⟩ := skipChallenge_ok skipped
  cases lost

theorem revealHint_on (revealed : s.revealHint = .ok (some s')) : ¬ Ends s s' := by
  rintro ⟨lost, playing⟩
  obtain ⟨ch, -, -, rfl⟩ := revealHint_more revealed
  exact playing lost

end State

namespace Engine
open State Progress

variable {e f : Engine} {s : State}

inductive Tells (e f : Engine) : Prop where
  | nothing (same : f.tracker = e.tracker) (on : ¬ Ends e.state f.state)
  | ending (ends : Ends e.state f.state) (last : f.state.score = e.state.score ∨ f.state.score = 0)
      (offered : f.tracker = e.tracker.obey (.offer (max f.state.score e.state.score)))
  | solved (c : Challenge) (s : State) (awarded : f.tracker = e.tracker.obey (.award c s))
      (on : ¬ Ends e.state f.state)

theorem Tells.unchanged (e : Engine) : Tells e e := .nothing rfl fun ends => ends.2 ends.1

theorem entered_on (on : ¬ Ends e.state s) (peak : Option Int) :
    (e.enter s peak).tracker = e.tracker ∧ (e.enter s peak).state = s := by
  have playing : ¬ (s.mode = .gameOver ∧ e.state.mode ≠ .gameOver) := on
  unfold enter
  dsimp only
  rw [if_neg playing]
  exact ⟨rfl, rfl⟩

theorem entered_over (ends : Ends e.state s) (peak : Option Int) :
    (e.enter s peak).tracker = e.tracker.obey (.offer (max s.score (peak.getD 0))) ∧
      (e.enter s peak).state = s := by
  have lost : s.mode = .gameOver ∧ e.state.mode ≠ .gameOver := ends
  unfold enter
  dsimp only
  rw [if_pos lost]
  exact ⟨rfl, rfl⟩

-- Whatever else has been noted down meanwhile.
theorem tells_on (state : f.state = e.state) (tracker : f.tracker = e.tracker)
    (on : ¬ Ends e.state s) (peak : Option Int) : Tells e (f.enter s peak) := by
  obtain ⟨same, now⟩ := entered_on (e := f) (s := s) (state ▸ on) peak
  refine .nothing (same.trans tracker) ?_
  rwa [now]

theorem tells_end (state : f.state = e.state) (tracker : f.tracker = e.tracker)
    (ends : Ends e.state s) (last : s.score = e.state.score ∨ s.score = 0) :
    Tells e (f.enter s (some e.state.score)) := by
  obtain ⟨offered, now⟩ := entered_over (e := f) (s := s) (state ▸ ends) (some e.state.score)
  refine .ending ?_ ?_ ?_
  · rwa [now]
  · rwa [now]
  · rw [offered, now, tracker]
    rfl

theorem tells_commit {change : Option State} (on : ∀ s, change = some s → ¬ Ends e.state s) :
    Tells e (e.commit change) := by
  cases change with
  | none => exact .unchanged e
  | some s => exact tells_on rfl rfl (on s rfl) none

theorem tells_tick (e : Engine) : Tells e e.tick.2 := by
  obtain same | ⟨s, event, source, advanced, entered⟩ := tick_enters e
  · rw [same]
    exact .unchanged e
  · rw [entered]
    by_cases ends : Ends e.state s
    · refine tells_end (by rfl) (by rfl) ends ?_
      rcases advance_changes advanced with same | changes
      · cases same
        exact absurd ends.1 ends.2
      · exact score_of_ends changes ends
    · exact tells_on (by rfl) (by rfl) ends _

theorem tells_judged (ch : Challenge) (verdicts : List Verdict) (active : e.state.mode ≠ .gameOver) :
    Tells e (e.judged ch verdicts) := by
  let s := { e.state with results := verdicts }
  by_cases solved : isSolvedBy verdicts = true
  · rw [judged_solved ch e solved]
    have on : ¬ Ends e.state (s.credit ch).resume := fun ends => nomatch ends.1
    obtain ⟨awarded, now⟩ := entered_on (e := e.rewarded ch verdicts) on none
    refine .solved ch s awarded ?_
    rwa [now]
  · rw [judged_failed ch e solved]
    have on : ¬ Ends e.state s := fun ends => active ends.1
    exact tells_on (by rfl) (by rfl) on none

theorem tells_submit (source : String) (e : Engine) : Tells e (e.submit source).2 := by
  obtain same | ⟨ch, verdicts, current, judged⟩ := submit_judges source e
  · rw [same]
    exact .unchanged e
  · rw [judged]
    refine tells_judged ch verdicts ?_
    rw [(current?_ok current).1]
    nofun

theorem tells_skip (e : Engine) : Tells e e.skip.2 := by
  obtain ⟨change, commits, skipped⟩ := skip_commits e
  rw [commits]
  exact tells_commit fun s entered => skipChallenge_on (skipped s entered)

theorem tells_hint (e : Engine) : Tells e e.hint.2 := by
  obtain ⟨change, commits, revealed⟩ := hint_commits e
  rw [commits]
  exact tells_commit fun s entered => revealHint_on (revealed s entered)

theorem tells_turn (d : Datum) (e : Engine) : Tells e (e.turn d).2 := by
  obtain ⟨change, commits, turned⟩ := turn_commits d e
  rw [commits]
  refine tells_commit fun s entered => ?_
  obtain ⟨_, turned⟩ := turned s entered
  exact changeDirection_on turned

theorem tells_reset (e : Engine) : Tells e e.reset := by
  have on : ¬ Ends e.state .initial := fun ends => nomatch ends.1
  exact tells_on (e := e) (f := { e with epoch := e.epoch + 1 }) rfl rfl on none

end Engine

-- Commands to the game itself, one at a time.
def Command.plays : Command → Bool
  | .tick | .countdownTick | .toggle | .direction _ | .submit _ | .solve | .skip | .hint | .reset
  | .snapshot | .look | .subscribe _ | .unsubscribe _ => true
  | .ticks _ | .signIn _ | .signOut | .flush | .set _ | .reach .. | .await _ => false

namespace Engine
open State Progress

variable {e f : Engine} {s : State}

theorem tells_perform {command : Command} (plays : command.plays) (e : Engine) :
    Tells e (e.perform command).2 := by
  cases command with
  | tick => exact replied_engine _ e.tick ▸ tells_tick e
  | countdownTick => exact tells_commit fun _ ticked => countdownTick_on ticked
  | toggle => exact tells_commit fun _ toggled => togglePlay_on toggled
  | direction d => exact replied_engine _ (e.turn d) ▸ tells_turn d e
  | submit source => exact replied_engine _ (e.submit source) ▸ tells_submit source e
  | solve => exact replied_engine _ (e.submit _) ▸ tells_submit _ e
  | skip => exact replied_engine _ e.skip ▸ tells_skip e
  | hint => exact replied_engine _ e.hint ▸ tells_hint e
  | reset => exact tells_reset e
  | snapshot | look | subscribe | unsubscribe => exact .nothing rfl fun ends => ends.2 ends.1
  | ticks | signIn | signOut | flush | set | reach | await => cases plays

-- The tracker has carried out some orders.
def Orders (e f : Engine) : Prop :=
  ∃ orders : List Order, f.tracker = orders.foldl Tracker.obey e.tracker

theorem Orders.none (same : f.tracker = e.tracker) : Orders e f := ⟨[], same⟩

theorem Orders.one (o : Order) (obeyed : f.tracker = e.tracker.obey o) : Orders e f := ⟨[o], obeyed⟩

theorem Orders.trans {g : Engine} (first : Orders e f) (then_ : Orders f g) : Orders e g := by
  obtain ⟨some, same⟩ := first
  obtain ⟨more, again⟩ := then_
  exact ⟨some ++ more, by rw [again, same, List.foldl_append]⟩

theorem Tells.orders (tells : Tells e f) : Orders e f := by
  cases tells with
  | nothing same => exact .none same
  | ending _ _ offered => exact .one _ offered
  | solved _ _ awarded => exact .one _ awarded

theorem orders_ticks (n : Nat) (e : Engine) : Orders e (e.ticks n).2 := by
  induction n generalizing e with
  | zero => exact .none rfl
  | succ n ih =>
    have first := (tells_tick e).orders
    unfold ticks
    split
    · rename_i ended
      rw [ended] at first
      exact first
    · rename_i next ended
      rw [ended] at first
      exact first.trans (ih next)

theorem perform_signIn (user : String) (e : Engine) :
    (e.perform (.signIn user)).2.tracker = e.tracker.obey (.signIn user) := by
  have tracker : (e.signIn user).2.tracker = (e.tracker.signIn user).2 := by
    unfold signIn
    split
    · rename_i ended
      rw [ended]
      rfl
    · rename_i ended
      rw [ended]
  exact (congrArg Engine.tracker (entered_signIn user e)).trans tracker

theorem orders_perform {command : Command} (play : command.isPlay) (e : Engine) :
    Orders e (e.perform command).2 := by
  cases command with
  | ticks n => exact replied_engine _ (e.ticks n) ▸ orders_ticks n e
  | signIn user => exact .one _ (perform_signIn user e)
  | signOut => exact .one .signOut rfl
  | flush => exact .one .flush rfl
  | reach readable writable => exact .one (.equip _ _ _) rfl
  | await awaiting => exact .one (.equip _ _ _) rfl
  | set => cases play
  | tick | countdownTick | toggle | direction | submit | solve | skip | hint | reset | snapshot | look
    | subscribe | unsubscribe => exact (tells_perform rfl e).orders

theorem orders_performAll {commands : List Command} (play : ∀ command ∈ commands, command.isPlay)
    (e : Engine) : Orders e (e.performAll commands) := by
  induction commands generalizing e with
  | nil => exact .none rfl
  | cons command rest ih =>
    have ⟨first, others⟩ := List.forall_mem_cons.mp play
    exact (orders_perform first e).trans (ih others _)

theorem written_performAll {commands : List Command} (play : ∀ command ∈ commands, command.isPlay)
    {e : Engine} (written : e.tracker.link.store.Written) :
    (e.performAll commands).tracker.link.store.Written := by
  obtain ⟨orders, same⟩ := orders_performAll play e
  rw [same]
  exact Tracker.written_orders written orders

end Engine

-- The player goes on playing, and writes arrive. Ticks are told one by one.
def Command.stays : Command → Bool
  | .reach _ writable => writable != some false
  | .await awaiting => awaiting.all (·.2.all Progress.Interruption.spares)
  | .flush => true
  | command => command.plays

theorem Command.play_of_stays {command : Command} (stays : command.stays) : command.isPlay := by
  cases command with
  | set => cases stays
  | _ => rfl

instance (s s' : State) : Decidable (s.Ends s') := inferInstanceAs (Decidable (_ ∧ _))

namespace Engine
open State Progress

variable {e f : Engine} {s : State} {user : String}

-- The score that a game has just before the command that ends it.
def finalScore? (command : Command) (e : Engine) : Option Int :=
  if e.state.Ends (e.perform command).2.state then some e.state.score else none

def finalScores : List Command → Engine → List Int
  | [], _ => []
  | command :: rest, e =>
    (e.finalScore? command).toList ++ finalScores rest (e.perform command).2

theorem solvent_leads (food : 0 ≤ e.config.foodPoints)
    (points : ∀ ch ∈ e.catalog.toList, 0 ≤ ch.points) (solvent : e.state.Solvent)
    (leads : Leads e f) : f.state.Solvent := by
  have path := leads.path
  generalize f.state = s at path
  induction path with
  | refl => exact solvent
  | tail _ changes ih => exact solvent_changes food points ih changes

theorem finalScore_on (command : Command) (on : ¬ e.state.Ends (e.perform command).2.state) :
    e.finalScore? command = none := if_neg on

theorem engaged_tells (engaged : Tracker.Engaged user e.tracker) (solvent : e.state.Solvent)
    {command : Command} (tells : Tells e (e.perform command).2) :
    Tracker.Engaged user (e.perform command).2.tracker ∧
      (e.perform command).2.tracker.owed user =
        (e.finalScore? command).toList.foldl max (e.tracker.owed user) := by
  cases tells with
  | nothing same on =>
    rw [same, finalScore_on command on]
    exact ⟨engaged, rfl⟩
  | ending ends last offered =>
    have final : max (e.perform command).2.state.score e.state.score = e.state.score := by
      have enough := solvent.score
      rcases last with last | last <;> omega
    have found : e.finalScore? command = some e.state.score := if_pos ends
    rw [offered, final, found]
    exact engaged.obey rfl
  | solved c s awarded on =>
    rw [awarded, finalScore_on command on]
    exact engaged.obey rfl

theorem engaged_perform (engaged : Tracker.Engaged user e.tracker) (solvent : e.state.Solvent)
    {command : Command} (stays : command.stays) :
    Tracker.Engaged user (e.perform command).2.tracker ∧
      (e.perform command).2.tracker.owed user =
        (e.finalScore? command).toList.foldl max (e.tracker.owed user) := by
  have carried {o : Order} (stays : o.stays = true) (none : o.offer? = none)
      (same : (e.perform command).2.state = e.state)
      (obeyed : (e.perform command).2.tracker = e.tracker.obey o) :
      Tracker.Engaged user (e.perform command).2.tracker ∧
        (e.perform command).2.tracker.owed user =
          (e.finalScore? command).toList.foldl max (e.tracker.owed user) := by
    rw [finalScore_on command (same ▸ fun ends => ends.2 ends.1), obeyed]
    have after := engaged.obey stays
    rwa [none] at after
  cases command with
  | flush => exact carried (o := .flush) rfl rfl rfl rfl
  | reach readable writable =>
    refine carried (o := .equip (readable.getD e.tracker.link.readable)
      (writable.getD e.tracker.link.writable) e.tracker.link.awaiting) ?_ rfl rfl rfl
    have steady := engaged.steady
    have on : writable.getD e.tracker.link.writable = true := by
      cases writable with
      | none => exact steady.writable
      | some writable => simpa [Command.stays] using stays
    simpa [Order.stays, on] using steady.awaited
  | await awaiting =>
    refine carried (o := .equip e.tracker.link.readable e.tracker.link.writable awaiting) ?_ rfl rfl rfl
    have spare : awaiting.all (·.2.all Interruption.spares) = true := stays
    rw [Order.stays, engaged.steady.writable, spare]
    rfl
  | ticks | signIn | signOut | set => cases stays
  | tick | countdownTick | toggle | direction | submit | solve | skip | hint | reset | snapshot | look
    | subscribe | unsubscribe => exact engaged_tells engaged solvent (tells_perform rfl e)

theorem engaged_performAll (food : 0 ≤ e.config.foodPoints)
    (points : ∀ ch ∈ e.catalog.toList, 0 ≤ ch.points) (solvent : e.state.Solvent)
    (engaged : Tracker.Engaged user e.tracker) {session : List Command}
    (stay : ∀ command ∈ session, command.stays) :
    Tracker.Engaged user (e.performAll session).tracker ∧
      (e.performAll session).tracker.owed user =
        (e.finalScores session).foldl max (e.tracker.owed user) := by
  induction session generalizing e with
  | nil => exact ⟨engaged, rfl⟩
  | cons command rest ih =>
    have ⟨first, others⟩ := List.forall_mem_cons.mp stay
    have leads := leads_perform (Command.play_of_stays first) e
    obtain ⟨still, owes⟩ := engaged_perform engaged solvent first
    obtain ⟨after, owed⟩ := ih (leads.config ▸ food) (leads.catalog ▸ points)
      (solvent_leads food points solvent leads) still others
    refine ⟨after, ?_⟩
    rw [finalScores, List.foldl_append, ← owes]
    exact owed

-- A player signs in on a store that nobody else writes to, and stays. Reads may fail at any time. When
-- a flush has ended and the record is known, the stored high score is the one of before or the best
-- score that any game since then had just before its end.
theorem stored_best (e : Engine) (fresh : e.state = .initial)
    (written : e.tracker.link.store.Written) (food : 0 ≤ e.config.foodPoints)
    (points : ∀ ch ∈ e.catalog.toList, 0 ≤ ch.points) {before session : List Command}
    (play : ∀ command ∈ before, command.isPlay) (stay : ∀ command ∈ session, command.stays)
    (steady : (e.performAll before).tracker.link.Steady) (user : String)
    (known : (e.performAll (before ++ .signIn user :: session ++ [.flush])).tracker.loaded = true) :
    (e.performAll (before ++ .signIn user :: session ++ [.flush])).tracker.stored user =
      (((e.performAll before).perform (.signIn user)).2.finalScores session).foldl max
        ((e.performAll before).tracker.stored user) := by
  let start := e.performAll before
  let entered := (start.perform (.signIn user)).2
  let ended := entered.performAll session
  have entering : (Command.signIn user).isPlay := rfl
  have begun : Leads e entered :=
    (leads_performAll play e).trans (leads_perform entering start)
  have solvent : entered.state.Solvent :=
    solvent_leads food points (fresh ▸ solvent_initial) begun
  have floor : 0 ≤ start.tracker.stored user := (written_performAll play written).floor user
  obtain ⟨engaged, owes⟩ := Tracker.signIn_engaged steady floor
  have signed : entered.tracker = (start.tracker.signIn user).2 := perform_signIn user start
  rw [← signed] at engaged owes
  obtain ⟨still, owed⟩ := engaged_performAll (begun.config ▸ food) (begun.catalog ▸ points) solvent
    engaged stay
  obtain ⟨_, last, empty⟩ := still.flush
  have run : e.performAll (before ++ .signIn user :: session ++ [.flush]) = (ended.flush).2 := by
    simp only [performAll, List.foldl_append, List.foldl_cons, List.foldl_nil]
    rfl
  rw [run] at known ⊢
  calc ended.tracker.flush.2.stored user
    _ = ended.tracker.flush.2.owed user := (Tracker.owed_settled known empty).symm
    _ = ended.tracker.owed user := last
    _ = (entered.finalScores session).foldl max (entered.tracker.owed user) := owed
    _ = (entered.finalScores session).foldl max (start.tracker.stored user) := by rw [owes]

-- The record cannot be read at first. A game ends at a wall after a meal, and the next one without any.
def returning : Engine where
  source := .scripted [0, 0]
  tracker := { link := { store := Store.setHighScore {} "ada" 5 } }

def walk : List Command :=
  .toggle :: List.replicate 4 .countdownTick ++ List.replicate 5 .tick

def twoGames : List Command :=
  walk ++ .direction (.str "down") :: List.replicate 8 .tick ++ [.flush, .reset] ++
    walk ++ List.replicate 3 .tick ++ [.reach (some true) none]

theorem twoGames_best :
    (((returning.performAll [.reach (some false) none]).perform (.signIn "ada")).2.finalScores
        twoGames = [10, 0]) ∧
      (returning.performAll ([.reach (some false) none] ++ .signIn "ada" :: twoGames)).tracker.stored
        "ada" = 5 ∧
      (returning.performAll ([.reach (some false) none] ++ .signIn "ada" :: twoGames ++
        [.flush])).tracker.stored "ada" = 10 := by
  have written : returning.tracker.link.store.Written := .highScore "ada" 5 .empty
  have points : ∀ ch ∈ returning.catalog.toList, 0 ≤ ch.points := by decide
  have play : ∀ command ∈ [Command.reach (some false) none], command.isPlay := by decide
  have stay : ∀ command ∈ twoGames, command.stays := by decide
  have steady : (returning.performAll [.reach (some false) none]).tracker.link.Steady :=
    ⟨rfl, List.forall_mem_nil _⟩
  have scores : ((returning.performAll [.reach (some false) none]).perform
      (.signIn "ada")).2.finalScores twoGames = [10, 0] := by decide +kernel
  refine ⟨scores, by decide +kernel, ?_⟩
  have best := stored_best returning rfl written (by decide) points play stay steady "ada"
    (by decide +kernel)
  rw [scores] at best
  exact best

end Engine
end ScriptArena.Arena
