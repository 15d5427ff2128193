import Mathlib.Data.List.DropRight
import ScriptArena.Progress.Tracker

namespace ScriptArena.Progress

-- A request on its way, and what goes on when it is answered: after a record that a flush has asked
-- for, and after every write, the outbox is sent.
inductive Flight where
  | reading (user : String) (flushing : Bool)
  | writing (w : Write)
deriving Repr, DecidableEq

def Flight.user : Flight → String
  | .reading user _ => user
  | .writing w => w.user

structure Traffic where
  tracker : Tracker
  flights : List Flight := []
deriving Repr, DecidableEq

-- What can be seen of a tracker. Of the moment when a write is queued or sent the whole tracker is
-- kept.
inductive Event where
  | signedIn (user : String)
  | signedOut
  | queued (w : Write) (now : Tracker)
  | asked (user : String)
  | sent (w : Write) (now : Tracker)
  | told (user : String) (arrived : Bool)
  | written (w : Write) (arrived : Bool)
deriving Repr, DecidableEq

inductive Move where
  | signIn (user : String)
  | signOut
  | award (c : Challenge) (s : Arena.State)
  | offer (score : Int)
  | flush
  -- The request at a place is answered, or has failed, or nobody waits for it any more.
  | answer (place : Nat) (arrived : Bool)
  | cancel (place : Nat)
  -- Things that others do.
  | equip (readable writable : Bool) (awaiting : List (RequestKind × List Interruption))
  | rewrite (store : Store)

-- Nobody else writes to the store.
def Move.isOwn : Move → Bool
  | .rewrite _ => false
  | _ => true

abbrev Act := Traffic → Traffic × List Event

namespace Act

def idle : Act := fun f => (f, [])

def andThen (first second : Act) : Act := fun f =>
  let (g, seen) := first f
  let (h, more) := second g
  (h, seen ++ more)

-- What has been added to the outbox.
def additions (before after : Tracker) : List Write := after.outbox.drop before.outbox.length

-- A change of the tracker, told by an event, and the writes that it queues.
def change (events : List Event) (become : Tracker → Tracker) : Act := fun f =>
  let t := become f.tracker
  ({ f with tracker := t }, events ++ (additions f.tracker t).map (.queued · t))

def launch (flight : Flight) : Act := fun f => ({ f with flights := f.flights ++ [flight] }, [])

def land (place : Nat) : Act := fun f => ({ f with flights := f.flights.eraseIdx place }, [])

end Act

def Tracker.record (q : Request) (t : Tracker) : Tracker := { t with link := t.link.record q }

def Tracker.serve (q : Request) (t : Tracker) : Tracker := { t with link := t.link.serve q }

-- Whoever was signed in before is forgotten.
def Tracker.welcome (user : String) (t : Tracker) : Tracker :=
  { t with outbox := [], held := 0, progress := some { user }, loaded := false }

def Tracker.equip (readable writable : Bool) (awaiting : List (RequestKind × List Interruption))
    (t : Tracker) : Tracker := { t with link := { t.link with readable, writable, awaiting } }

def Tracker.rewrite (store : Store) (t : Tracker) : Tracker :=
  { t with link := { t.link with store } }

-- The tracker when a write is on its way, and the outbox without it.
def Tracker.posting (w : Write) (rest : List Write) (t : Tracker) : Tracker :=
  { t with outbox := rest }.record w.request

-- An answer, if it arrives.
def Tracker.told (user : String) (arrived : Bool) (t : Tracker) : Tracker :=
  if arrived then t.accept user else t

def Tracker.wrote (w : Write) (arrived : Bool) (t : Tracker) : Tracker :=
  if arrived then (t.serve w.request).confirm w else t

theorem Tracker.wrote_outbox (w : Write) (arrived : Bool) (t : Tracker) :
    (t.wrote w arrived).outbox = t.outbox := by
  unfold wrote
  split
  · rfl
  · rfl

namespace Tracker

-- What a game brings about, besides another held score: at most one write is queued. A high score
-- beats the record, which is known, and a challenge is not yet on it.
inductive Queues (t : Tracker) : Tracker → Prop where
  | nothing (held : Int) : Queues t { t with held }
  | highScore (held : Int) {r : Record} {score : Int} (signed : t.progress = some r)
      (known : t.loaded = true) (beats : r.highScore < score) :
      Queues t { t with held, outbox := t.outbox ++ [.highScore r.user score] }
  | challenge (held : Int) {r : Record} {id : String} (signed : t.progress = some r)
      (new : id ∉ r.completed) :
      Queues t { t with held, outbox := t.outbox ++ [.challenge r.user id] }

theorem Queues.of_held {t u : Tracker} {held : Int} (queues : Queues { t with held } u) :
    t.Queues u := by
  cases queues with
  | nothing held => exact .nothing held
  | highScore held signed known beats => exact .highScore held signed known beats
  | challenge held signed new => exact .challenge held signed new

theorem Queues.progress {t u : Tracker} (queues : t.Queues u) : u.progress = t.progress := by
  cases queues with
  | nothing | highScore | challenge => rfl

theorem queues_offer (score : Int) (t : Tracker) : t.Queues (t.offerScore score).2 := by
  unfold offerScore
  split
  · exact .nothing t.held
  · rename_i r signed
    split
    · exact .nothing _
    · rename_i known
      split
      · exact .nothing t.held
      · rename_i beats
        exact .highScore t.held signed (by simpa using known) (Int.not_le.mp beats)

theorem queues_award (c : Challenge) (s : Arena.State) (t : Tracker) : t.Queues (t.award c s).2 := by
  unfold award queueChallenge
  dsimp only
  split
  · exact .nothing t.held
  · rename_i r signed
    split
    · exact .nothing t.held
    · rename_i new
      exact .challenge t.held signed (by simpa using new)

theorem queues_release (t : Tracker) : t.Queues t.release := by
  unfold release
  dsimp only
  split
  · exact .nothing 0
  · exact (queues_offer t.held { t with held := 0 }).of_held

-- The record of the player is known from now on.
def learn (user : String) (t : Tracker) : Tracker :=
  { t with progress := some (t.link.store.get user), loaded := true }

section
variable {run : Interrupting} {t mid : Tracker} {user : String} {arrived : Bool}

theorem told_learns (signed : t.user? = some user) : t.told user true = (t.learn user).release :=
  if_pos signed

theorem loadBy_told (signed : t.user? = some user)
    (sent : t.send run (.get user) = (arrived, if arrived then mid.serve (.get user) else mid)) :
    t.loadBy run = mid.told user arrived := by
  rw [loadBy, signed]
  dsimp only
  rw [sent]
  cases arrived with
  | true | false => rfl

-- Whether it ends well or not.
theorem signInBy_loads (run : Interrupting) (user : String) (t : Tracker) :
    (t.signInBy run user).2 = (t.welcome user).loadBy run := by
  unfold signInBy
  dsimp only
  split
  · rfl
  · rfl

theorem signIn_loads (user : String) (t : Tracker) :
    (t.signIn user).2 = (t.welcome user).loadBy (interrupt t.link.awaiting.length) :=
  signInBy_loads _ user t

theorem interrupt_signIn (fuel : Nat) (user : String) (t : Tracker) :
    (interrupt (fuel + 1) (.signIn user) t).2 = (t.welcome user).loadBy (interrupt fuel) := by
  have loads := signInBy_loads (interrupt fuel) user t
  unfold interrupt
  split
  · rename_i ended
    rwa [ended] at loads
  · rename_i ended
    rwa [ended] at loads

end

end Tracker

namespace Traffic
open Act

def ask (user : String) (flushing : Bool) : Act :=
  (change [.asked user] (·.record (.get user))).andThen (launch (.reading user flushing))

-- The next write is sent.
def pump : Act := fun f =>
  match f.tracker.outbox with
  | [] => (f, [])
  | w :: rest =>
    ((change [.sent w f.tracker] (·.posting w rest)).andThen (launch (.writing w))) f

def beginFlush : Act := fun f =>
  match f.tracker.user? with
  | some user => if f.tracker.loaded then pump f else ask user true f
  | none => pump f

def settle (arrived : Bool) : Flight → Act
  | .reading user flushing =>
    (change [.told user arrived] (·.told user arrived)).andThen (if flushing then pump else idle)
  | .writing w => (change [.written w arrived] (·.wrote w arrived)).andThen pump

def step (m : Move) : Act :=
  match m with
  | .signIn user => (change [.signedIn user] (·.welcome user)).andThen (ask user false)
  | .signOut => change [.signedOut] (·.signOut)
  | .award c s => change [] fun t => (t.award c s).2
  | .offer score => change [] fun t => (t.offerScore score).2
  | .flush => beginFlush
  | .answer place arrived => fun f =>
    match f.flights[place]? with
    | some flight => ((land place).andThen (settle arrived flight)) f
    | none => idle f
  | .cancel place => land place
  | .equip readable writable awaiting => change [] (·.equip readable writable awaiting)
  | .rewrite store => change [] (·.rewrite store)

def run : List Move → Act
  | [] => idle
  | m :: rest => (step m).andThen (run rest)

-- A tracker as it begins, on a link to any store.
def ofLink (l : Link) : Traffic := { tracker := { link := l } }

def trace (l : Link) (moves : List Move) : List Event := (run moves (ofLink l)).2

end Traffic

-- What holds of the events so far and of the tracker holds again after the act.
def Act.Keeps (inv : List Event → Tracker → Prop) (a : Act) : Prop :=
  ∀ f seen, inv seen f.tracker → inv (seen ++ (a f).2) (a f).1.tracker

namespace Act

variable {inv : List Event → Tracker → Prop}

theorem keeps_idle : Keeps inv idle := by
  intro f seen holds
  simpa [idle] using holds

theorem keeps_andThen {first second : Act} (one : Keeps inv first) (two : Keeps inv second) :
    Keeps inv (first.andThen second) := by
  intro f seen holds
  have after := two _ _ (one f seen holds)
  rwa [List.append_assoc] at after

theorem keeps_launch (flight : Flight) : Keeps inv (launch flight) := by
  intro f seen holds
  simpa [launch] using holds

theorem keeps_land (place : Nat) : Keeps inv (land place) := by
  intro f seen holds
  simpa [land] using holds

-- The events of the writes that have been added.
def noted (t u : Tracker) : List Event := (additions t u).map (.queued · u)

theorem keeps_change {events : List Event} {become : Tracker → Tracker}
    (keeps : ∀ seen t, inv seen t → inv (seen ++ events ++ noted t (become t)) (become t)) :
    Keeps inv (change events become) := by
  intro f seen holds
  have after := keeps seen f.tracker holds
  rwa [List.append_assoc] at after

theorem keeps_quiet {events : List Event} {become : Tracker → Tracker}
    (quiet : ∀ t, additions t (become t) = [])
    (keeps : ∀ seen t, inv seen t → inv (seen ++ events) (become t)) :
    Keeps inv (change events become) := by
  refine keeps_change fun seen t holds => ?_
  simpa [noted, quiet] using keeps seen t holds

theorem additions_same {t u : Tracker} (same : u.outbox = t.outbox) : additions t u = [] := by
  simp [additions, same]

-- An outbox that is emptied gets nothing new.
theorem additions_none {t u : Tracker} (empty : u.outbox = []) : additions t u = [] := by
  simp [additions, empty]

theorem noted_same {t u : Tracker} (same : u.outbox = t.outbox) : noted t u = [] := by
  simp [noted, additions_same same]

theorem noted_one {t u : Tracker} {w : Write} (longer : u.outbox = t.outbox ++ [w]) :
    noted t u = [.queued w u] := by
  simp [noted, additions, longer]

end Act

namespace Traffic
open Act

variable {inv : List Event → Tracker → Prop}

-- Every change keeps the invariant, unless somebody else writes to the store.
structure Kept (inv : List Event → Tracker → Prop) : Prop where
  enter : ∀ {seen t} user, inv seen t → inv (seen ++ [.signedIn user]) (t.welcome user)
  leave : ∀ {seen t}, inv seen t → inv (seen ++ [.signedOut]) t.signOut
  queue : ∀ {seen t u}, inv seen t → t.Queues u → inv (seen ++ noted t u) u
  ask : ∀ {seen t} user, inv seen t → inv (seen ++ [.asked user]) (t.record (.get user))
  post : ∀ {seen t w rest}, inv seen t → t.outbox = w :: rest →
    inv (seen ++ [.sent w t]) (t.posting w rest)
  -- A record that does not arrive, or too late, is of no use.
  miss : ∀ {seen t} user arrived, inv seen t → inv (seen ++ [.told user arrived]) t
  learn : ∀ {seen t user}, inv seen t → t.user? = some user →
    inv (seen ++ [.told user true]) (t.learn user)
  lose : ∀ {seen t} w, inv seen t → inv (seen ++ [.written w false]) t
  arrive : ∀ {seen t} w, inv seen t → inv (seen ++ [.written w true]) (t.wrote w true)
  equip : ∀ {seen t} readable writable awaiting, inv seen t →
    inv seen (t.equip readable writable awaiting)

namespace Kept

theorem keeps_ask (kept : Kept inv) (user : String) (flushing : Bool) :
    Keeps inv (Traffic.ask user flushing) :=
  keeps_andThen
    (keeps_quiet (fun _ => additions_same rfl) fun _ _ holds => kept.ask user holds)
    (keeps_launch _)

theorem keeps_pump (kept : Kept inv) : Keeps inv pump := by
  intro f seen holds
  unfold pump
  split
  · simpa using holds
  · rename_i w rest waiting
    have shorter : additions f.tracker (f.tracker.posting w rest) = [] := by
      simp [additions, Tracker.posting, Tracker.record, waiting]
    simpa [Act.andThen, Act.change, Act.launch, shorter] using kept.post holds waiting

theorem keeps_told (kept : Kept inv) (user : String) (arrived : Bool) {seen : List Event}
    {t : Tracker} (holds : inv seen t) :
    inv (seen ++ [.told user arrived] ++ noted t (t.told user arrived)) (t.told user arrived) := by
  have missed : inv (seen ++ [.told user arrived] ++ noted t t) t := by
    rw [noted_same rfl, List.append_nil]
    exact kept.miss user arrived holds
  cases arrived with
  | false => exact missed
  | true =>
    change inv (seen ++ [.told user true] ++ noted t (t.accept user)) (t.accept user)
    unfold Tracker.accept
    split
    · rename_i signed
      have queued := kept.queue (kept.learn holds signed) (t.learn user).queues_release
      exact queued
    · exact missed

theorem keeps_settle (kept : Kept inv) (arrived : Bool) (flight : Flight) :
    Keeps inv (settle arrived flight) := by
  cases flight with
  | reading user flushing =>
    refine keeps_andThen (keeps_change fun _ _ holds => kept.keeps_told user arrived holds) ?_
    split
    · exact kept.keeps_pump
    · exact keeps_idle
  | writing w =>
    refine keeps_andThen ?_ kept.keeps_pump
    refine keeps_quiet (fun t => additions_same (t.wrote_outbox w arrived)) fun _ _ holds => ?_
    cases arrived with
    | true => exact kept.arrive w holds
    | false => exact kept.lose w holds

theorem keeps_step (kept : Kept inv) {m : Move} (own : m.isOwn) : Keeps inv (step m) := by
  cases m with
  | signIn user =>
    refine keeps_andThen ?_ (kept.keeps_ask user false)
    exact keeps_quiet (fun _ => additions_none rfl) fun _ _ holds => kept.enter user holds
  | signOut => exact keeps_quiet (fun _ => additions_none rfl) fun _ _ holds => kept.leave holds
  | award c s =>
    refine keeps_change fun _ _ holds => ?_
    simpa using kept.queue holds (Tracker.queues_award c s _)
  | offer score =>
    refine keeps_change fun _ _ holds => ?_
    simpa using kept.queue holds (Tracker.queues_offer score _)
  | flush =>
    intro f seen holds
    simp only [step, beginFlush]
    split
    · split
      · exact kept.keeps_pump f seen holds
      · exact kept.keeps_ask _ true f seen holds
    · exact kept.keeps_pump f seen holds
  | answer place arrived =>
    intro f seen holds
    simp only [step]
    split
    · exact keeps_andThen (keeps_land place) (kept.keeps_settle arrived _) f seen holds
    · exact keeps_idle f seen holds
  | cancel place => exact keeps_land place
  | equip readable writable awaiting =>
    refine keeps_quiet (fun _ => additions_same rfl) fun _ _ holds => ?_
    simpa using kept.equip readable writable awaiting holds
  | rewrite store => cases own

end Kept

theorem keeps_rewrite {store : Store} (rewrites : ∀ seen t, inv seen t → inv seen (t.rewrite store)) :
    Keeps inv (step (.rewrite store)) := by
  refine keeps_quiet (fun _ => additions_same rfl) fun seen t holds => ?_
  simpa using rewrites seen t holds

-- What each of the moves keeps, every run keeps.
theorem keeps_run {moves : List Move} (steps : ∀ m ∈ moves, Keeps inv (step m)) :
    Keeps inv (run moves) := by
  induction moves with
  | nil => exact keeps_idle
  | cons m rest ih =>
    have ⟨first, others⟩ := List.forall_mem_cons.mp steps
    exact keeps_andThen first (ih others)

theorem holds_run {l : Link} {moves : List Move} (initial : inv [] { link := l })
    (steps : ∀ m ∈ moves, Keeps inv (step m)) :
    inv (trace l moves) (run moves (ofLink l)).1.tracker := by
  simpa [trace] using keeps_run steps (ofLink l) [] initial

end Traffic
end ScriptArena.Progress
