import ScriptArena.Arena.Advance
import ScriptArena.Arena.Transition
import ScriptArena.Judge.Evaluate
import ScriptArena.Progress.Tracker

namespace ScriptArena.Arena

inductive Listener where
  | loop
  | named (name : String)
deriving Repr, DecidableEq

structure Notice where
  listener : Listener
  version : Nat
  mode : Mode
deriving Repr, DecidableEq

inductive Count where
  | step (event : Event)
  | gameOver (reason : Option EndReason)
  | solved (challenge : String)
  | submission (challenge : String) (outcome : ScriptArena.Outcome)
deriving Repr, DecidableEq

-- The version numbers the states. The epoch tells countdowns apart: it grows whenever one begins or is
-- left.
structure Engine where
  catalog : Catalog := Bundled.catalog
  config : Config := {}
  limits : Limits := {}
  source : Draw.Source
  state : State := .initial
  version : Nat := 0
  epoch : Nat := 0
  listeners : List Listener := []
  tracker : Progress.Tracker := {}
  notices : List Notice := []
  -- What was counted so far, the newest first.
  counts : List Count := []

namespace Engine

def count (c : Count) (e : Engine) : Engine := { e with counts := c :: e.counts }

def subscribe (l : Listener) (e : Engine) : Engine := { e with listeners := e.listeners ++ [l] }

-- Of equal listeners the oldest goes.
def unsubscribe (l : Listener) (e : Engine) : Engine := { e with listeners := e.listeners.erase l }

-- Every subscription under a name is an object of its own, and the name stands for the newest.
def dismiss (name : String) (e : Engine) : Engine :=
  { e with listeners := (e.listeners.reverse.erase (.named name)).reverse }

def notify (e : Engine) : Engine :=
  { e with notices := e.notices ++ e.listeners.map (⟨·, e.version, e.state.mode⟩) }

-- Something other than the state has changed.
def touch (e : Engine) : Engine := { e with version := e.version + 1 }.notify

def countsDown (s : State) : Bool := s.mode = .countdown

-- The score of a game that has just ended, or the one before its last step, if that is higher.
def recordEnd (peak : Option Int) (e : Engine) : Engine :=
  let (_, tracker) := e.tracker.offerScore (max e.state.score (peak.getD 0))
  { e with tracker }.count (.gameOver e.state.reason)

def enter (s : State) (peak : Option Int) (e : Engine) : Engine :=
  let epoch := if countsDown s = countsDown e.state then e.epoch else e.epoch + 1
  let ended := s.mode = .gameOver ∧ e.state.mode ≠ .gameOver
  let e := { e with state := s, version := e.version + 1, epoch }
  (if ended then e.recordEnd peak else e).notify

def commit (change : Option State) (e : Engine) : Engine :=
  match change with
  | some s => e.enter s none
  | none => e

def tick (e : Engine) : Except Refusal Event × Engine :=
  match e.state.advance e.catalog e.config e.source with
  | .error r => (.error r, e)
  | .ok ⟨_, .none, _⟩ => (.ok .none, e)
  | .ok ⟨s, event, source⟩ =>
    (.ok event, ({ e with source }.count (.step event)).enter s (some e.state.score))

-- Ticks one after the other, up to the first that fails.
def ticks : Nat → Engine → Except Refusal (List Event) × Engine
  | 0, e => (.ok [], e)
  | n + 1, e =>
    match e.tick with
    | (.error r, e) => (.error r, e)
    | (.ok event, e) =>
      let (rest, e) := ticks n e
      (rest.map (event :: ·), e)

def countdownTick (e : Engine) : Engine := e.commit e.state.countdownTick

def togglePlay (e : Engine) : Engine := e.commit (e.state.togglePlay e.config)

def setDirection (d : Direction) (e : Engine) : Engine :=
  e.commit (e.state.changeDirection e.config d)

def isSolvedBy (verdicts : List Verdict) : Bool :=
  !verdicts.isEmpty && verdicts.all (·.passed)

def judged (c : Challenge) (verdicts : List Verdict) (e : Engine) : Engine :=
  let s := { e.state with results := verdicts }
  let e := e.count (.submission c.id (.ofVerdicts verdicts))
  if isSolvedBy verdicts then
    let (s, tracker) := e.tracker.award c s
    ({ e with tracker }.count (.solved c.id)).commit (some s.resume)
  else e.commit (some s)

def submit (source : String) (e : Engine) : Except Refusal (List Verdict) × Engine :=
  match e.state.current? with
  | .error r => (.error r, e)
  | .ok c =>
    let verdicts := Judge.evaluate c e.limits source c.testCases
    (.ok verdicts, e.judged c verdicts)

def skip (e : Engine) : Except Refusal Unit × Engine :=
  match e.state.skipChallenge with
  | .error r => (.error r, e)
  | .ok s => (.ok (), e.commit (some s))

-- The hint at an index; negative ones count from the end.
def hintAt (hints : List String) (i : Int) : Except Refusal String :=
  let i := if i < 0 then i + hints.length else i
  match if i < 0 then none else hints[i.toNat]? with
  | some hint => .ok hint
  | none => .error .noSuchHint

-- Reveal the next hint; none if all are revealed.
def hint (e : Engine) : Except Refusal (Option String) × Engine :=
  match e.state.current?, e.state.revealHint with
  | .ok c, .ok (some s) => ((hintAt c.hints (s.hints - 1)).map some, e.commit (some s))
  | .ok _, .ok none => (.ok none, e)
  | .error r, _ | _, .error r => (.error r, e)

-- Back to the beginning. A countdown that is under way is left for good.
def reset (e : Engine) : Engine := { e with epoch := e.epoch + 1 }.commit (some .initial)

def signIn (user : String) (e : Engine) : Except Progress.SignedOutMeanwhile Unit × Engine :=
  match e.tracker.signIn user with
  | (.ok _, tracker) => (.ok (), { e with tracker }.touch)
  | (.error err, tracker) => (.error err, { e with tracker })

def signOut (e : Engine) : Engine := { e with tracker := e.tracker.signOut }.touch

def flush (e : Engine) : Nat × Engine :=
  let (written, tracker) := e.tracker.flush
  (written, { e with tracker })

end Engine
end ScriptArena.Arena
