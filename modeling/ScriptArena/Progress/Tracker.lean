import ScriptArena.Arena.Transition
import ScriptArena.Progress.Link

namespace ScriptArena.Progress

inductive Write where
  | highScore (user : String) (score : Int)
  | challenge (user id : String)
deriving Repr, DecidableEq

namespace Write

def user : Write → String
  | .highScore user _ | .challenge user _ => user

def request : Write → Request
  | .highScore user score => .set user score
  | .challenge user id => .add user id

-- What the write does to a record.
def apply (w : Write) (r : Record) : Record :=
  match w with
  | .highScore _ score => r.raise score
  | .challenge _ id => r.complete id

end Write

-- What must reach the store waits in the outbox, so that a slow or failing store never holds up a game.
-- While the record is not known the best score is held back.
structure Tracker where
  progress : Option Record := none
  -- Is the progress the record of the store?
  loaded : Bool := false
  held : Int := 0
  outbox : List Write := []
  link : Link := {}
deriving Repr, DecidableEq

structure SignedOutMeanwhile where
deriving Repr, DecidableEq

def SignedOutMeanwhile.message (_ : SignedOutMeanwhile) : String :=
  "'NoneType' object has no attribute 'high_score'"

namespace Tracker

def user? (t : Tracker) : Option String := t.progress.map (·.user)

def highScore (t : Tracker) : Int := t.progress.elim 0 (·.highScore)

def completed (t : Tracker) : List String := t.progress.elim [] (·.completed)

def signOut (t : Tracker) : Tracker :=
  { t with progress := none, loaded := false, held := 0, outbox := [] }

-- A score of a player: queued if it beats the known record, held if the record is not known.
-- The answer says whether it was queued.
def offerScore (score : Int) (t : Tracker) : Bool × Tracker :=
  match t.progress with
  | none => (false, t)
  | some r =>
    if !t.loaded then (false, { t with held := max t.held score })
    else if score ≤ r.highScore then (false, t)
    else (true, { t with outbox := t.outbox ++ [.highScore r.user score] })

def queueChallenge (id : String) (t : Tracker) : Tracker :=
  match t.progress with
  | none => t
  | some r =>
    if r.completed.contains id then t
    else { t with outbox := t.outbox ++ [.challenge r.user id] }

def award (c : Challenge) (s : Arena.State) (t : Tracker) : Arena.State × Tracker :=
  (s.credit c, t.queueChallenge c.id)

-- How an interruption runs, and whether it runs to its end.
abbrev Interrupting := Interruption → Tracker → Bool × Tracker

-- The first interruption that fails is the last one.
def interruptAll (run : Interrupting) : List Interruption → Tracker → Bool × Tracker
  | [], t => (true, t)
  | i :: rest, t =>
    match run i t with
    | (true, t) => interruptAll run rest t
    | (false, t) => (false, t)

-- A request: put on the list, interrupted, and served if the store can be reached then.
def send (run : Interrupting) (q : Request) (t : Tracker) : Bool × Tracker :=
  let (interruptions, link) := (t.link.record q).take q.kind
  let (ended, t) := interruptAll run interruptions { t with link }
  if ended && t.link.reaches q.kind then (true, { t with link := t.link.serve q }) else (false, t)

-- The held score is offered when the record has become known.
def release (t : Tracker) : Tracker :=
  let held := t.held
  let t := { t with held := 0 }
  if held = 0 then t else (t.offerScore held).2

-- An answer that comes too late is dropped.
def accept (user : String) (t : Tracker) : Tracker :=
  if t.user? = some user then
    release { t with progress := some (t.link.store.get user), loaded := true }
  else t

def loadBy (run : Interrupting) (t : Tracker) : Tracker :=
  match t.user? with
  | none => t
  | some user =>
    match t.send run (.get user) with
    | (true, t) => t.accept user
    | (false, t) => t

def signInBy (run : Interrupting) (user : String) (t : Tracker) :
    Except SignedOutMeanwhile Record × Tracker :=
  let t := { t with outbox := [], held := 0, progress := some { user }, loaded := false }.loadBy run
  match t.progress with
  | some r => (.ok r, t)
  | none => (.error {}, t)

def interrupt : Nat → Interrupting
  | _, .signOut, t => (true, t.signOut)
  | _, .reach readable writable, t => (true, { t with link := { t.link with readable, writable } })
  | 0, .signIn _, t => (true, t)
  | fuel + 1, .signIn user, t =>
    match t.signInBy (interrupt fuel) user with
    | (.ok _, t) => (true, t)
    | (.error _, t) => (false, t)

-- Interruptions are used up, so there are no more of them inside each other than are awaited.
def interrupting (t : Tracker) : Interrupting := interrupt t.link.awaiting.length

def load (t : Tracker) : Tracker := t.loadBy t.interrupting

def signIn (user : String) (t : Tracker) : Except SignedOutMeanwhile Record × Tracker :=
  t.signInBy t.interrupting user

-- A write that has arrived also changes the progress of its user.
def confirm (w : Write) (t : Tracker) : Tracker :=
  { t with progress := t.progress.map fun r => if r.user = w.user then w.apply r else r }

-- Send what waits, the oldest first. Writes that fail are lost. The answer counts the others.
def drain : Nat → Nat → Tracker → Nat × Tracker
  | 0, written, t => (written, t)
  | fuel + 1, written, t =>
    match t.outbox with
    | [] => (written, t)
    | w :: rest =>
      match { t with outbox := rest }.send t.interrupting w.request with
      | (true, t) => drain fuel (written + 1) (t.confirm w)
      | (false, t) => drain fuel written t

-- While the outbox is sent it only gets shorter.
def drainAll (t : Tracker) : Nat × Tracker := drain t.outbox.length 0 t

def flush (t : Tracker) : Nat × Tracker :=
  (if t.progress.isSome && !t.loaded then t.load else t).drainAll

end Tracker
end ScriptArena.Progress
