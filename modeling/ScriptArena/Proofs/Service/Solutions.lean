import ScriptArena.Proofs.Arena.Modes
import ScriptArena.Service.Chat
import ScriptArena.Service.Http

namespace ScriptArena

def Challenge.unsolved (c : Challenge) : Challenge := { c with solution := "" }

def Catalog.unsolved (k : Catalog) : Catalog where
  first := k.first.unsolved
  others := k.others.map Challenge.unsolved
  distinct := by
    have same : (k.first.unsolved :: k.others.map Challenge.unsolved).map Challenge.id =
        (k.first :: k.others).map Challenge.id := by
      simp [Challenge.unsolved, Function.comp_def]
    exact same ▸ k.distinct

namespace Judge

variable (c : Challenge) (l : Limits)

theorem stopped_unsolved (n : Nat) (p : Printed) (e : Fault) :
    stopped c.unsolved n p e = stopped c n p e := by
  cases e with
  | limit | failure | noRule | noTarget | noOperator | tooDeep => rfl

theorem runVector_unsolved (p : Script.Program) (t : TestCase) :
    runVector c.unsolved p l t = runVector c p l t := by
  have found (s : Session) : function? s c.unsolved = function? s c := rfl
  simp only [runVector, found]

theorem run_unsolved (p : Script.Program) (tests : List TestCase) :
    run c.unsolved p l tests = run c p l tests := by
  have reported (n : Nat) (t : TestCase) (ending : Ending) :
      report c.unsolved n t ending = report c n t ending := by
    cases ending with
    | stopped e p => exact stopped_unsolved c n p e
    | unfound | answered => rfl
  simp only [run, judgeVectors, judgeVector, runVector_unsolved, reported]

theorem evaluate_unsolved (source : String) (tests : List TestCase) :
    evaluate c.unsolved l source tests = evaluate c l source tests := by
  have increment (code : String) : increment? c.unsolved code = increment? c code := rfl
  simp only [evaluate, increment, run_unsolved]

end Judge

namespace Catalog

variable {k k' : Catalog}

theorem toList_unsolved (k : Catalog) : k.unsolved.toList = k.toList.map Challenge.unsolved := rfl

-- A catalog is like the one without its solutions.
theorem alike_unsolved (k : Catalog) :
    k.toList.map Challenge.unsolved = k.unsolved.toList.map Challenge.unsolved := by
  have again (c : Challenge) : c.unsolved.unsolved = c.unsolved := rfl
  simp [toList_unsolved, again]

theorem atIndex_unsolved (k : Catalog) (index : Int) :
    k.unsolved.atIndex index = (k.atIndex index).unsolved := by
  have place : k.unsolved.place index = k.place index := by simp [Catalog.place, size, unsolved]
  simp [atIndex, place, toList_unsolved]

theorem find?_unsolved (k : Catalog) (id : String) :
    k.unsolved.find? id = (k.find? id).map Challenge.unsolved := by
  simp only [Catalog.find?, toList_unsolved, List.find?_map]
  rfl

theorem unsolved_eq (same : k.toList.map Challenge.unsolved = k'.toList.map Challenge.unsolved) :
    k.unsolved = k'.unsolved := by
  simp only [toList, List.map_cons, List.cons.injEq] at same
  simp [unsolved, same.1, same.2]

end Catalog

namespace Arena

def State.unsolved (s : State) : State := { s with active := s.active.map Challenge.unsolved }

def Outcome.unsolved (out : Outcome) : Outcome := { out with state := out.state.unsolved }

def Engine.unsolved (e : Engine) : Engine :=
  { e with catalog := e.catalog.unsolved, state := e.state.unsolved }

def Snapshot.unsolved (shot : Snapshot) : Snapshot := { shot with state := shot.state.unsolved }

namespace State

@[simp] theorem unsolved_mode (s : State) : s.unsolved.mode = s.mode := rfl

@[simp] theorem unsolved_countdown (s : State) : s.unsolved.countdown = s.countdown := rfl

@[simp] theorem unsolved_hints (s : State) : s.unsolved.hints = s.hints := rfl

@[simp] theorem unsolved_active (s : State) :
    s.unsolved.active = s.active.map Challenge.unsolved := rfl

variable (k : Catalog) (c : Config) (source : Draw.Source) (s : State) (target : Position)

theorem eatFood_unsolved :
    s.unsolved.eatFood c source target = (s.eatFood c source target).map Outcome.unsolved := by
  have occupied : s.unsolved.occupied = s.occupied := rfl
  unfold eatFood
  rw [occupied]
  cases emptyCell (target :: s.occupied) c.gridSize source with
  | error | ok => rfl

theorem spawnBug_unsolved :
    s.unsolved.spawnBug c source target = (s.spawnBug c source target).map Outcome.unsolved := by
  have occupied : s.unsolved.occupied = s.occupied := rfl
  unfold spawnBug
  rw [occupied]
  cases emptyCell (target :: s.occupied) c.gridSize source with
  | error | ok => rfl

theorem openChallenge_unsolved (slot : Slot) :
    s.unsolved.openChallenge k.unsolved target slot = (s.openChallenge k target slot).unsolved := by
  simp only [openChallenge, Catalog.atIndex_unsolved]
  rfl

theorem hitBug_unsolved :
    s.unsolved.hitBug c source target = (s.hitBug c source target).unsolved := by
  have score : s.unsolved.score = s.score := rfl
  unfold hitBug
  dsimp only
  rw [score]
  split
  · rfl
  · rfl

theorem enter_unsolved :
    s.unsolved.enter k.unsolved c source target =
      (s.enter k c source target).map Outcome.unsolved := by
  have food : s.unsolved.food = s.food := rfl
  have bugs : s.unsolved.bugs = s.bugs := rfl
  have slot : s.unsolved.slotAt? target = s.slotAt? target := rfl
  unfold enter
  simp only [food, bugs, slot, eatFood_unsolved, spawnBug_unsolved, hitBug_unsolved,
    openChallenge_unsolved]
  split
  · rfl
  cases s.slotAt? target with
  | some slot => rfl
  | none =>
    dsimp only
    split
    · rfl
    split
    · rfl
    · rfl

theorem step_unsolved :
    s.unsolved.step k.unsolved c source = (s.step k c source).map Outcome.unsolved := by
  have snake : s.unsolved.snake = s.snake := rfl
  have next : s.unsolved.nextDirection = s.nextDirection := rfl
  have turned : s.unsolved.turned = s.turned.unsolved := rfl
  unfold step
  rw [snake]
  cases s.snake with
  | nil => rfl
  | cons head body =>
    simp only [next, turned, enter_unsolved]
    split
    · rfl
    split
    · rfl
    · rfl

theorem advance_unsolved :
    s.unsolved.advance k.unsolved c source = (s.advance k c source).map Outcome.unsolved := by
  simp only [advance, step_unsolved, unsolved_mode, unsolved_countdown]
  split
  · rfl
  split
  · rfl
  · rfl

theorem countdownTick_unsolved :
    s.unsolved.countdownTick = s.countdownTick.map State.unsolved := by
  simp only [countdownTick, unsolved_mode, unsolved_countdown]
  split
  · split
    · rfl
    · rfl
  · rfl

theorem togglePlay_unsolved : s.unsolved.togglePlay c = (s.togglePlay c).map State.unsolved := by
  simp only [togglePlay, unsolved_mode]
  cases s.mode with
  | idle | running | countdown | challengeActive | gameOver => rfl

theorem changeDirection_unsolved (d : Direction) :
    s.unsolved.changeDirection c d = (s.changeDirection c d).map State.unsolved := by
  have takes : s.unsolved.takesDirection = s.takesDirection := rfl
  have blocked : s.unsolved.isBlocked c d = s.isBlocked c d := rfl
  simp only [changeDirection, takes, blocked]
  split
  · rfl
  · rfl

theorem skipChallenge_unsolved :
    s.unsolved.skipChallenge = s.skipChallenge.map State.unsolved := by
  unfold skipChallenge
  rw [unsolved_mode]
  by_cases active : s.mode = .challengeActive
  · simp only [if_pos active]
    rfl
  · simp only [if_neg active]
    rfl

theorem current?_unsolved : s.unsolved.current? = s.current?.map Challenge.unsolved := by
  simp only [current?, unsolved_mode, unsolved_active]
  cases s.active with
  | none =>
    cases s.mode with
    | idle | running | countdown | challengeActive | gameOver => rfl
  | some ch =>
    cases s.mode with
    | idle | running | countdown | challengeActive | gameOver => rfl

theorem revealHint_unsolved :
    s.unsolved.revealHint = s.revealHint.map (Option.map State.unsolved) := by
  unfold revealHint
  rw [current?_unsolved]
  cases s.current? with
  | error => rfl
  | ok ch =>
    have hints : ch.unsolved.hints = ch.hints := rfl
    simp only [Except.map, bind, Except.bind, pure, Except.pure, unsolved_hints, hints]
    split
    · rfl
    · rfl

end State

namespace Engine

variable (e : Engine)

theorem enter_unsolved (s : State) (peak : Option Int) :
    e.unsolved.enter s.unsolved peak = (e.enter s peak).unsolved := by
  have before : e.unsolved.state.mode = e.state.mode := rfl
  simp only [enter, before, State.unsolved_mode]
  split
  · rfl
  · rfl

theorem commit_unsolved (change : Option State) :
    e.unsolved.commit (change.map State.unsolved) = (e.commit change).unsolved := by
  cases change with
  | none => rfl
  | some s => exact e.enter_unsolved s none

-- What an action answers, and the engine after it without its solutions.
def unsolvedAfter {α : Type} (result : α × Engine) : α × Engine := (result.1, result.2.unsolved)

theorem tick_unsolved : e.unsolved.tick = unsolvedAfter e.tick := by
  have advanced : e.unsolved.state.advance e.unsolved.catalog e.unsolved.config e.unsolved.source =
      (e.state.advance e.catalog e.config e.source).map Outcome.unsolved :=
    State.advance_unsolved e.catalog e.config e.source e.state
  unfold tick
  rw [advanced]
  cases e.state.advance e.catalog e.config e.source with
  | error => rfl
  | ok out =>
    obtain ⟨s, event, source⟩ := out
    have entered (event : Event) :=
      ({ e with source }.count (.step event)).enter_unsolved s (some e.state.score)
    cases event with
    | none => rfl
    | moved => exact congrArg (Prod.mk _) (entered .moved)
    | food => exact congrArg (Prod.mk _) (entered .food)
    | challenge => exact congrArg (Prod.mk _) (entered .challenge)
    | bug => exact congrArg (Prod.mk _) (entered .bug)
    | bugSpawned => exact congrArg (Prod.mk _) (entered .bugSpawned)
    | started => exact congrArg (Prod.mk _) (entered .started)
    | gameOver => exact congrArg (Prod.mk _) (entered .gameOver)

theorem ticks_unsolved (n : Nat) : e.unsolved.ticks n = unsolvedAfter (e.ticks n) := by
  induction n generalizing e with
  | zero => rfl
  | succ n ih =>
    simp only [ticks, tick_unsolved, unsolvedAfter]
    cases e.tick with
    | mk answer f =>
      cases answer with
      | error => rfl
      | ok event =>
        dsimp only
        rw [ih]
        rfl

theorem judged_unsolved (ch : Challenge) (verdicts : List Verdict) :
    e.unsolved.judged ch.unsolved verdicts = (e.judged ch verdicts).unsolved := by
  let s := { e.state with results := verdicts }
  by_cases solved : isSolvedBy verdicts = true
  · rw [judged_solved ch e solved, judged_solved ch.unsolved e.unsolved solved]
    exact (e.rewarded ch verdicts).enter_unsolved (s.credit ch).resume none
  · rw [judged_failed ch e solved, judged_failed ch.unsolved e.unsolved solved]
    exact (e.count (.submission ch.id (.ofVerdicts verdicts))).enter_unsolved s none

theorem submit_unsolved (source : String) :
    e.unsolved.submit source = unsolvedAfter (e.submit source) := by
  have current : e.unsolved.state.current? = e.state.current?.map Challenge.unsolved :=
    State.current?_unsolved e.state
  unfold submit
  rw [current]
  cases e.state.current? with
  | error => rfl
  | ok ch =>
    have evaluated : Judge.evaluate ch.unsolved e.unsolved.limits source ch.unsolved.testCases =
        Judge.evaluate ch e.limits source ch.testCases :=
      Judge.evaluate_unsolved ch e.limits source ch.testCases
    simp only [Except.map, evaluated, judged_unsolved, unsolvedAfter]

theorem skip_unsolved : e.unsolved.skip = unsolvedAfter e.skip := by
  have skipped : e.unsolved.state.skipChallenge = e.state.skipChallenge.map State.unsolved :=
    State.skipChallenge_unsolved e.state
  unfold skip
  rw [skipped]
  cases e.state.skipChallenge with
  | error => rfl
  | ok s => exact congrArg (Prod.mk _) (e.enter_unsolved s none)

theorem hint_unsolved : e.unsolved.hint = unsolvedAfter e.hint := by
  have current : e.unsolved.state.current? = e.state.current?.map Challenge.unsolved :=
    State.current?_unsolved e.state
  have revealed : e.unsolved.state.revealHint = e.state.revealHint.map (Option.map State.unsolved) :=
    State.revealHint_unsolved e.state
  unfold hint
  rw [current, revealed]
  cases e.state.current? with
  | error => rfl
  | ok ch =>
    cases e.state.revealHint with
    | error => rfl
    | ok next =>
      cases next with
      | none => rfl
      | some s => exact congrArg (Prod.mk _) (e.enter_unsolved s none)

theorem turn_unsolved (d : Datum) : e.unsolved.turn d = unsolvedAfter (e.turn d) := by
  unfold turn
  cases Direction.ofDatum d with
  | error => rfl
  | ok heading =>
    have changed : e.unsolved.state.changeDirection e.unsolved.config heading =
        (e.state.changeDirection e.config heading).map State.unsolved :=
      State.changeDirection_unsolved e.config e.state heading
    simp only [setDirection, changed, commit_unsolved]
    rfl

theorem togglePlay_unsolved : e.unsolved.togglePlay = e.togglePlay.unsolved := by
  have toggled : e.unsolved.state.togglePlay e.unsolved.config =
      (e.state.togglePlay e.config).map State.unsolved := State.togglePlay_unsolved e.config e.state
  simp only [togglePlay, toggled, commit_unsolved]

theorem reset_unsolved : e.unsolved.reset = e.reset.unsolved :=
  { e with epoch := e.epoch + 1 }.commit_unsolved (some .initial)

theorem signIn_unsolved (user : String) :
    e.unsolved.signIn user = unsolvedAfter (e.signIn user) := by
  have tracker : e.unsolved.tracker = e.tracker := rfl
  unfold signIn
  rw [tracker]
  cases e.tracker.signIn user with
  | mk answer tracker =>
    cases answer with
    | error | ok => rfl

theorem snapshot_unsolved : e.unsolved.snapshot = e.snapshot.unsolved := rfl

end Engine

theorem Snapshot.document_unsolved (shot : Snapshot) : shot.unsolved.document = shot.document := by
  have view : Datum.orNone (challengeView shot.state.hints)
      (shot.state.active.map Challenge.unsolved) =
      Datum.orNone (challengeView shot.state.hints) shot.state.active := by
    cases shot.state.active with
    | none | some => rfl
  unfold document
  simp only [Snapshot.unsolved, State.unsolved_active, State.unsolved_hints, view]
  rfl

-- A snapshot is shown as a document; all other replies are what they are.
def Reply.shown : Reply → Reply ⊕ Datum
  | .snapshot shot => .inr shot.document
  | reply => .inl reply

-- Blind commands are neither handed a state nor the solution itself.
def Command.isBlind : Command → Bool
  | .solve | .set _ => false
  | _ => true

namespace Engine

def showing (result : Reply × Engine) : (Reply ⊕ Datum) × Engine := (result.1.shown, result.2)

theorem replied_unsolved {α : Type} (reply : α → Reply) (result : Except Refusal α × Engine) :
    replied reply (unsolvedAfter result) = unsolvedAfter (replied reply result) := by
  obtain ⟨answer, e⟩ := result
  cases answer with
  | error | ok => rfl

theorem perform_unsolved {command : Command} (blind : command.isBlind) (e : Engine) :
    showing (e.unsolved.perform command) = unsolvedAfter (showing (e.perform command)) := by
  cases command with
  | tick =>
    simp only [perform, tick_unsolved, replied_unsolved]
    rfl
  | ticks n =>
    simp only [perform, ticks_unsolved, replied_unsolved]
    rfl
  | countdownTick =>
    have counted : e.unsolved.state.countdownTick = e.state.countdownTick.map State.unsolved :=
      State.countdownTick_unsolved e.state
    simp only [perform, countdownTick, counted, commit_unsolved]
    rfl
  | toggle =>
    simp only [perform, togglePlay_unsolved]
    rfl
  | direction d =>
    simp only [perform, turn_unsolved, replied_unsolved]
    rfl
  | submit source =>
    simp only [perform, submit_unsolved, replied_unsolved]
    rfl
  | skip =>
    simp only [perform, skip_unsolved, replied_unsolved]
    rfl
  | hint =>
    simp only [perform, hint_unsolved, replied_unsolved]
    rfl
  | reset =>
    simp only [perform, reset_unsolved]
    rfl
  | signIn user =>
    simp only [perform, signIn_unsolved]
    cases e.signIn user with
    | mk answer f =>
      cases answer with
      | error | ok => rfl
  | snapshot =>
    simp only [perform, showing, unsolvedAfter, Reply.shown, snapshot_unsolved,
      Snapshot.document_unsolved]
  | solve | set => cases blind
  | signOut | flush | look | reach | await | subscribe | unsubscribe => rfl

end Engine
end Arena

namespace Service
open Arena Engine

def Message.unsolved : Message → Message
  | .gameState shot => .gameState shot.unsolved
  | m => m

theorem Message.document_unsolved (m : Message) : m.unsolved.document = m.document := by
  cases m with
  | gameState shot => simp only [unsolved, document, Snapshot.document_unsolved]
  | pong | error => rfl

def Talk.unsolved (t : Talk) : Talk :=
  { t with engine := t.engine.unsolved, sent := t.sent.map Message.unsolved }

-- What is sent back, and the engine after it, without solutions.
def unsolvedTurn (result : Except Fault (Option Message) × Engine) :
    Except Fault (Option Message) × Engine :=
  (result.1.map (Option.map Message.unsolved), result.2.unsolved)

theorem turn_unsolved (d : Datum) (e : Engine) :
    Service.turn d e.unsolved = unsolvedTurn (Service.turn d e) := by
  unfold Service.turn
  split
  · rfl
  · rw [Engine.turn_unsolved]
    cases e.turn d with
    | mk answer f =>
      cases answer with
      | ok => rfl
      | error why =>
        cases why with
        | _ => rfl

theorem handle_unsolved (message : Datum) (e : Engine) :
    handle message e.unsolved = unsolvedTurn (handle message e) := by
  unfold handle
  dsimp only
  split
  · rfl
  · rfl
  · exact Service.turn_unsolved _ e
  · rw [togglePlay_unsolved]
    rfl
  · cases plainText ((message.field? "type").getD .none) with
    | ok | error => rfl

namespace Talk

variable (t : Talk)

def unsolvedTalk (result : Except Breakdown Unit × Talk) : Except Breakdown Unit × Talk :=
  (result.1, result.2.unsolved)

theorem send_unsolved (m : Message) : t.unsolved.send m.unsolved = unsolvedTalk (t.send m) := by
  simp only [send, unsolved, List.length_map]
  split
  · simp only [unsolvedTalk, unsolved, List.map_append, List.map_cons, List.map_nil]
  · rfl

theorem reply_unsolved (m : Option Message) :
    t.unsolved.reply (m.map Message.unsolved) = unsolvedTalk (t.reply m) := by
  cases m with
  | none => rfl
  | some m => exact t.send_unsolved m

theorem hear_unsolved (text : String) : t.unsolved.hear text = unsolvedTalk (t.hear text) := by
  have invalid (t : Talk) : t.unsolved.send invalidMessage = unsolvedTalk (t.send invalidMessage) :=
    t.send_unsolved invalidMessage
  have engine : t.unsolved.engine = t.engine.unsolved := rfl
  unfold hear
  cases Json.read maxDepth text with
  | error why =>
    cases why with
    | tooDeep => rfl
    | _ => exact invalid t
  | ok d =>
    cases d with
    | dict entries =>
      dsimp only
      rw [engine, handle_unsolved]
      cases handle (.dict entries) t.engine with
      | mk answer e =>
        cases answer with
        | ok m => exact reply_unsolved { t with engine := e } m
        | error => exact invalid { t with engine := e }
    | none | bool | int | float | str | list | tuple => exact invalid t

theorem hearAll_unsolved (texts : List String) :
    t.unsolved.hearAll texts = unsolvedTalk (t.hearAll texts) := by
  induction texts generalizing t with
  | nil => rfl
  | cons text rest ih =>
    simp only [hearAll, hear_unsolved]
    cases t.hear text with
    | mk ending t =>
      cases ending with
      | ok => exact ih t
      | error => rfl

theorem run_unsolved (texts : List String) : t.unsolved.run texts = unsolvedTalk (t.run texts) := by
  have greeted : t.unsolved.send (.gameState t.unsolved.engine.snapshot) =
      unsolvedTalk (t.send (.gameState t.engine.snapshot)) :=
    t.send_unsolved (.gameState t.engine.snapshot)
  unfold run
  rw [greeted]
  cases t.send (.gameState t.engine.snapshot) with
  | mk ending t =>
    cases ending with
    | ok => exact t.hearAll_unsolved texts
    | error => rfl

end Talk

theorem stateResponse_unsolved (e : Engine) : stateResponse e.unsolved = stateResponse e := by
  simp only [stateResponse, stateBody, snapshot_unsolved, Snapshot.document_unsolved]

theorem challengeList_unsolved (e : Engine) : challengeList e.unsolved = challengeList e := by
  have listed : e.unsolved.catalog.toList = e.catalog.toList.map Challenge.unsolved := rfl
  simp only [challengeList, listed, List.zipIdx_map, List.map_map]
  rfl

theorem showChallenge_unsolved (id : String) (e : Engine) :
    showChallenge id e.unsolved = showChallenge id e := by
  have found : e.unsolved.catalog.find? id = (e.catalog.find? id).map Challenge.unsolved :=
    Catalog.find?_unsolved e.catalog id
  unfold showChallenge
  rw [found]
  cases e.catalog.find? id with
  | none | some => rfl

theorem ofRefusal_unsolved (why : Refusal) (e : Engine) :
    Answered.ofRefusal why e.unsolved = unsolvedAfter (Answered.ofRefusal why e) := by
  cases why with
  | _ => rfl

theorem flush_unsolved (e : Engine) : e.unsolved.flush = unsolvedAfter e.flush := rfl

theorem turnAnswer_unsolved (b : Body) (e : Engine) :
    turnAnswer b e.unsolved = unsolvedAfter (turnAnswer b e) := by
  unfold turnAnswer
  cases b.fields.bind directionField with
  | error => rfl
  | ok d =>
    have turned : e.unsolved.setDirection d = (e.setDirection d).unsolved := by
      have changed := State.changeDirection_unsolved e.config e.state d
      exact (congrArg e.unsolved.commit changed).trans (e.commit_unsolved _)
    simp only [turned, stateResponse_unsolved]
    rfl

theorem submitAnswer_unsolved (b : Body) (e : Engine) :
    submitAnswer b e.unsolved = unsolvedAfter (submitAnswer b e) := by
  unfold submitAnswer
  cases b.fields.bind fun d => textField d "code" (some "") 0 maxCodeLength with
  | error => rfl
  | ok code =>
    dsimp only
    rw [submit_unsolved]
    cases e.submit code with
    | mk answer f =>
      cases answer with
      | error why => exact ofRefusal_unsolved why f
      | ok verdicts =>
        simp only [unsolvedAfter, flush_unsolved, submitResponse, stateBody, snapshot_unsolved,
          Snapshot.document_unsolved]

theorem skipAnswer_unsolved (e : Engine) :
    skipAnswer e.unsolved = unsolvedAfter (skipAnswer e) := by
  unfold skipAnswer
  rw [skip_unsolved]
  cases e.skip with
  | mk answer f =>
    cases answer with
    | error why => exact ofRefusal_unsolved why f
    | ok => simp only [unsolvedAfter, stateResponse_unsolved]

theorem hintAnswer_unsolved (e : Engine) :
    hintAnswer e.unsolved = unsolvedAfter (hintAnswer e) := by
  unfold hintAnswer
  rw [hint_unsolved]
  cases e.hint with
  | mk answer f =>
    cases answer with
    | error why => exact ofRefusal_unsolved why f
    | ok text =>
      have hints : f.unsolved.state.hints = f.state.hints := rfl
      simp only [unsolvedAfter, hintResponse, hints, stateBody, snapshot_unsolved,
        Snapshot.document_unsolved]

theorem signInAnswer_unsolved (b : Body) (e : Engine) :
    signInAnswer b e.unsolved = unsolvedAfter (signInAnswer b e) := by
  unfold signInAnswer
  cases b.fields.bind fun d => textField d "user_id" none 1 maxUserLength with
  | error => rfl
  | ok user =>
    dsimp only
    rw [signIn_unsolved]
    cases e.signIn user with
    | mk answer f =>
      cases answer with
      | error | ok => rfl

theorem answer_unsolved (rules : Config) (a : Action) (b : Body) (e : Engine) :
    a.answer rules b e.unsolved = unsolvedAfter (a.answer rules b e) := by
  cases a with
  | state => simp only [Action.answer, stateResponse_unsolved, unsolvedAfter]
  | toggle =>
    simp only [Action.answer, togglePlay_unsolved, stateResponse_unsolved, unsolvedAfter]
  | turn => exact turnAnswer_unsolved b e
  | submit => exact submitAnswer_unsolved b e
  | skip => exact skipAnswer_unsolved e
  | hint => exact hintAnswer_unsolved e
  | reset =>
    simp only [Action.answer, reset_unsolved, flush_unsolved, unsolvedAfter, stateResponse_unsolved]
  | signIn => exact signInAnswer_unsolved b e
  | challenges => simp only [Action.answer, challengeList_unsolved, unsolvedAfter]
  | challenge id => simp only [Action.answer, showChallenge_unsolved, unsolvedAfter]
  | signOut | health | index | page => rfl

theorem request_unsolved (q : HttpRequest) (e : Engine) :
    q.answer e.unsolved = ((unsolvedAfter (q.answer e).1), (q.answer e).2) := by
  unfold HttpRequest.answer
  dsimp only
  cases destination q.method (Target.path q.target) with
  | answer => rfl
  | action a =>
    simp only [answer_unsolved]
    rfl

-- What reaches a game from outside: a command, a message, a whole session over a socket, one text
-- in a session, or a request. Sockets fail when they have taken as many messages as their limit.
inductive Visit where
  | command (c : Command)
  | message (d : Datum)
  | session (limit : Option Nat) (texts : List String)
  | text (limit : Option Nat) (s : String)
  | request (q : HttpRequest)

-- All that is seen of a game from outside.
inductive Answer where
  | reply (r : Reply ⊕ Datum)
  | message (m : Except Fault (Option Datum))
  | talk (ending : Except Breakdown Unit) (sent : List Datum)
  | response (r : Except Crash HttpResponse) (counted : Happening)

namespace Visit

def isBlind : Visit → Bool
  | .command c => c.isBlind
  | .message _ | .session .. | .text .. | .request _ => true

def talked (result : Except Breakdown Unit × Talk) : Answer × Engine :=
  (.talk result.1 (result.2.sent.map Message.document), result.2.engine)

def answer (v : Visit) (e : Engine) : Answer × Engine :=
  match v with
  | .command c =>
    let (reply, e) := e.perform c
    (.reply reply.shown, e)
  | .message d =>
    let (m, e) := handle d e
    (.message (m.map (Option.map Message.document)), e)
  | .session limit texts => talked (Talk.run texts { engine := e, limit })
  | .text limit s => talked (Talk.hear s { engine := e, limit })
  | .request q =>
    let ((r, e), counted) := q.answer e
    (.response r counted, e)

-- The answers to visits, one after the other.
def answers : List Visit → Engine → List Answer
  | [], _ => []
  | v :: rest, e => (v.answer e).1 :: answers rest (v.answer e).2

theorem talked_unsolved (result : Except Breakdown Unit × Talk) :
    talked (Talk.unsolvedTalk result) = unsolvedAfter (talked result) := by
  have sent : (result.2.sent.map Message.unsolved).map Message.document =
      result.2.sent.map Message.document := by
    simp only [List.map_map, Function.comp_def, Message.document_unsolved]
  simp only [talked, Talk.unsolvedTalk, Talk.unsolved, sent, unsolvedAfter]

theorem answer_unsolved {v : Visit} (blind : v.isBlind) (e : Engine) :
    v.answer e.unsolved = unsolvedAfter (v.answer e) := by
  cases v with
  | command c =>
    have performed := perform_unsolved blind e
    exact congrArg (fun result => (Answer.reply result.1, result.2)) performed
  | message d =>
    have documents (m : Option Message) :
        (m.map Message.unsolved).map Message.document = m.map Message.document := by
      simp only [Option.map_map, Function.comp_def, Message.document_unsolved]
    simp only [answer, handle_unsolved, unsolvedTurn]
    cases handle d e with
    | mk m f =>
      cases m with
      | error => rfl
      | ok m => simp only [Except.map, documents, unsolvedAfter]
  | session limit texts =>
    have run := Talk.run_unsolved { engine := e, limit } texts
    exact (congrArg talked run).trans (talked_unsolved _)
  | text limit s =>
    have heard := Talk.hear_unsolved { engine := e, limit } s
    exact (congrArg talked heard).trans (talked_unsolved _)
  | request q =>
    simp only [answer, request_unsolved]
    rfl

theorem answers_unsolved {visits : List Visit} (blind : ∀ v ∈ visits, v.isBlind) (e : Engine) :
    answers visits e.unsolved = answers visits e := by
  induction visits generalizing e with
  | nil => rfl
  | cons v rest ih =>
    have ⟨first, others⟩ := List.forall_mem_cons.mp blind
    simp only [answers, answer_unsolved first, unsolvedAfter, ih others]

-- Games whose catalogs differ in their solutions only cannot be told apart from outside.
theorem solutions_hidden {k k' : Catalog}
    (alike : k.toList.map Challenge.unsolved = k'.toList.map Challenge.unsolved) (e : Engine)
    {visits : List Visit} (blind : ∀ v ∈ visits, v.isBlind) :
    answers visits { e with catalog := k } = answers visits { e with catalog := k' } := by
  have same : ({ e with catalog := k } : Engine).unsolved =
      ({ e with catalog := k' } : Engine).unsolved := by
    simp only [Engine.unsolved, Catalog.unsolved_eq alike]
  calc answers visits { e with catalog := k }
      = answers visits ({ e with catalog := k } : Engine).unsolved := (answers_unsolved blind _).symm
    _ = answers visits ({ e with catalog := k' } : Engine).unsolved := by rw [same]
    _ = answers visits { e with catalog := k' } := answers_unsolved blind _

-- A challenge is opened, a hint revealed, and everything there is to see is looked at.
def curiousVisits : List Visit :=
  firstHint.map .command ++
    [.command .snapshot, .message (.dict []), .session none ["[]"], .text (some 0) "1",
      .request ⟨"GET", "/api/challenges/", .none⟩,
      .request ⟨"POST", "/api/game/run", .document (.dict [])⟩]

theorem bundled_solutions_hidden :
    Bundled.catalog.first.solution ≠ Bundled.catalog.unsolved.first.solution ∧
      (bundledGame.performAll firstHint).state.active.map (·.solution) =
        some Bundled.countDown.solution ∧
      (∀ v ∈ curiousVisits, v.isBlind) ∧
      answers curiousVisits { bundledGame with catalog := Bundled.catalog } =
        answers curiousVisits { bundledGame with catalog := Bundled.catalog.unsolved } :=
  ⟨by decide, by decide +kernel, by decide,
    solutions_hidden Bundled.catalog.alike_unsolved bundledGame (by decide)⟩

end Visit
end Service
end ScriptArena
