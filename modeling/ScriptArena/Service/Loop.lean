import ScriptArena.Arena.Command

namespace ScriptArena.Service
open Arena

-- Instants and spans in microseconds.
abbrev Time := Nat

inductive CountdownTimer where
  | waiting
  | sleeping (epoch : Nat) (due : Time)
deriving Repr, DecidableEq

-- An arena timer, a countdown timer and a publisher that sends a snapshot after changes. Time passes only
-- while all of them wait.
structure GameLoop where
  engine : Engine
  tickSpan : Time
  countdownSpan : Time
  now : Time := 0
  running : Bool := false
  arenaDue : Time := 0
  countdown : CountdownTimer := .waiting
  -- Has a change left the engine in a countdown?
  armed : Bool := false
  changed : Bool := false
  -- How many of the next broadcasts fail.
  failures : Nat := 0
  broadcasts : List Snapshot := []

structure BroadcastFailed where
deriving Repr, DecidableEq

namespace GameLoop

def defaultTickSpan : Time := 250000
def defaultCountdownSpan : Time := 1000000

-- A span of no time stands for the usual one.
def ofEngine (e : Engine) (tickSpan countdownSpan : Time) (failures : Nat) : GameLoop :=
  { engine := e
    tickSpan := if tickSpan = 0 then defaultTickSpan else tickSpan
    countdownSpan := if countdownSpan = 0 then defaultCountdownSpan else countdownSpan
    failures }

def countsDown (l : GameLoop) : Bool := l.engine.state.mode = .countdown

def isOwn (n : Notice) : Bool := n.listener = .loop

-- Take note of what the engine has told the loop.
def notice (l : GameLoop) : GameLoop :=
  let (own, others) := l.engine.notices.partition isOwn
  { l with
    engine := { l.engine with notices := others }
    changed := l.changed || !own.isEmpty
    armed := l.armed || own.any (·.mode = .countdown) }

def act {α : Type} (action : Engine → α × Engine) (l : GameLoop) : α × GameLoop :=
  let (a, engine) := action l.engine
  (a, { l with engine }.notice)

-- Broadcasts of a loop that does not run are not recorded.
def broadcast (l : GameLoop) : Except BroadcastFailed Nat × GameLoop :=
  if l.failures > 0 then (.error {}, { l with failures := l.failures - 1 })
  else if l.running then (.ok 1, { l with broadcasts := l.broadcasts ++ [l.engine.snapshot] })
  else (.ok 1, l)

-- Write what is waiting to the store, and send the current snapshot.
def publish (l : GameLoop) : Except BroadcastFailed Nat × GameLoop := (l.act Engine.flush).2.broadcast

-- A failure of the publisher only loses one broadcast.
def publishChange (l : GameLoop) : GameLoop :=
  if l.running && l.changed then { l with changed := false }.publish.2 else l

def sleep (epoch : Nat) (l : GameLoop) : GameLoop :=
  { l with countdown := .sleeping epoch (l.now + l.countdownSpan) }

-- A timer that waits and is armed begins the countdown that is under way.
def arm (l : GameLoop) : GameLoop :=
  if l.running && l.armed && l.countdown = .waiting then
    let l := { l with armed := false }
    if l.countsDown then l.sleep l.engine.epoch else l
  else l

-- Everybody takes a turn.
def settle (l : GameLoop) : GameLoop := l.arm.publishChange

def tickArena (l : GameLoop) : GameLoop :=
  { (l.act Engine.tick).2 with arenaDue := l.arenaDue + l.tickSpan }.settle

def stepCountdown (l : GameLoop) : GameLoop :=
  match l.countdown with
  | .waiting => l
  | .sleeping epoch _ =>
    if l.engine.epoch = epoch then
      let l := (l.act fun e => ((), e.countdownTick)).2
      (if l.countsDown then l.sleep epoch else { l with countdown := .waiting }).settle
    else { l with countdown := .waiting }.settle

-- The next timer that is due before an instant, and when.
def nextDue? (before : Time) (l : GameLoop) : Option (Time × (GameLoop → GameLoop)) :=
  if !l.running then none
  else
    let (due, action) := match l.countdown with
      | .sleeping _ due => if due < l.arenaDue then (due, stepCountdown) else (l.arenaDue, tickArena)
      | .waiting => (l.arenaDue, tickArena)
    if due < before then some (due, action) else none

def passFrom (instant : Time) : Nat → GameLoop → GameLoop
  | 0, l => { l with now := instant }
  | fuel + 1, l =>
    match l.nextDue? instant with
    | some (due, action) => passFrom instant fuel (action { l with now := due })
    | none => { l with now := instant }

-- Timers come round no more often than their spans fit into the time that passes, twice in all.
def rounds (instant : Time) (l : GameLoop) : Nat :=
  (instant - l.now) / l.tickSpan + (instant - l.now) / l.countdownSpan + 4

def pass (instant : Time) (l : GameLoop) : GameLoop := passFrom instant (l.rounds instant) l

-- A loop that runs is not started again.
def start (l : GameLoop) : GameLoop :=
  if l.running then l
  else
    { l with
      engine := l.engine.subscribe .loop
      running := true
      arenaDue := l.now + l.tickSpan
      countdown := .waiting
      changed := false
      armed := l.countsDown }

def stop (l : GameLoop) : GameLoop :=
  if l.running then { l with engine := l.engine.unsubscribe .loop, running := false } else l

-- Started, and everybody has taken a first turn.
def launch (l : GameLoop) : GameLoop := l.start.settle

def lifespan (enabled : Bool) (l : GameLoop) : GameLoop × GameLoop × GameLoop :=
  let inside := if enabled then l.start else l
  (l, inside, inside.stop)

inductive Cue where
  | start
  | stop
  | publish
  | command (c : Command)

inductive CueReply where
  | done
  | sent (n : Nat)
  | command (r : Reply)

-- What a cue does at once.
def perform (c : Cue) (l : GameLoop) : Except BroadcastFailed CueReply × GameLoop :=
  match c with
  | .start => (.ok .done, l.start)
  | .stop => (.ok .done, l.stop)
  | .publish =>
    let (sent, l) := l.publish
    (sent.map .sent, l)
  | .command c =>
    let (reply, l) := l.act (Engine.perform c)
    (.ok (.command reply), l)

-- A cue at an instant. The second loop is what is seen then, without the broadcasts that were
-- seen before; afterwards everybody takes a turn.
def play (instant : Time) (c : Cue) (l : GameLoop) :
    Except BroadcastFailed CueReply × GameLoop × GameLoop :=
  let (reply, l) := (l.pass instant).perform c
  (reply, l, { l with broadcasts := [] }.settle)

end GameLoop
end ScriptArena.Service
