import Mathlib.Algebra.BigOperators.Group.List.Basic
import Mathlib.Algebra.Ring.Int.Defs
import Mathlib.Data.List.Nodup
import ScriptArena.Service.Connections
import ScriptArena.Service.Metrics

namespace ScriptArena.Service

def Happening.socketChange (happening : Happening) : Int :=
  ((happening.samples false).filter (·.1 = socketSample)).map (·.2) |>.sum

theorem Happening.opened_change : Happening.opened.socketChange = 1 := rfl

theorem Happening.closed_change : Happening.closed.socketChange = -1 := rfl

def Connections.deliver (id : Nat) (m : Datum) (c : Connections) : Connections :=
  { c with sockets := c.sockets.modify id (·.take m) }

-- The connections, and the gauge that counts them.
structure Exchange where
  connections : Connections := {}
  gauge : Int

namespace Exchange

inductive Ask where
  | connect (s : Socket)
  | disconnect (id : Nat)
  | send (id : Nat) (m : Datum)
  | broadcast (m : Datum)

inductive Reply where
  | connected (id : Nat)
  | disconnected
  | took (taken : Bool)
  | count (taken : Nat)
  | raised

-- Sends of one message to one connection after the other, and how many have been taken.
structure Round where
  m : Datum
  todo : List Nat
  taken : Nat := 0

-- Where a call is. After a connection that has failed is removed, its round goes on.
inductive Point where
  | accepting (s : Socket)
  | added (id : Nat)
  | sending (r : Round)
  | waiting (id : Nat) (r : Round)
  | leaving (id : Nat) (after : Option Round)
  | removed (id : Nat) (after : Option Round)
  | ended

namespace Point

-- The call has changed the connections, and the gauge is still to follow.
def isBetween : Point → Bool
  | .added _ | .removed _ _ => true
  | _ => false

-- What the gauge lacks.
def owed : Point → Int
  | .added _ => 1
  | .removed _ _ => -1
  | _ => 0

def resumed : Option Round → Point
  | some r => .sending r
  | none => .ended

end Point

namespace Ask

-- The connections that a call speaks to, by those that are there when it begins.
def targets : Ask → List Nat → List Nat
  | .send id _, _ => [id]
  | .broadcast _, ids => ids
  | _, _ => []

def start (ids : List Nat) : Ask → Point
  | .connect s => .accepting s
  | .disconnect id => .leaving id none
  | .send id m => .sending ⟨m, [id], 0⟩
  | .broadcast m => .sending ⟨m, ids, 0⟩

def isRound : Ask → Bool
  | .send _ _ | .broadcast _ => true
  | _ => false

def told : Ask → Nat → Reply
  | .send _ _, taken => .took (taken != 0)
  | _, taken => .count taken

-- What a call does that nobody interrupts.
def outcome (c : Connections) : Ask → Reply × Connections
  | .connect s => (.connected (c.connect s).1, (c.connect s).2)
  | .disconnect id => (.disconnected, c.disconnect id)
  | .send id m => (.took (c.send id m).1, (c.send id m).2)
  | .broadcast m => (.count (c.broadcast m).1, (c.broadcast m).2)

end Ask

-- What can be seen of the calls, which are numbered in the order in which they begin. Of the moment when
-- one begins the connections are kept.
inductive Event where
  | asked (k : Nat) (a : Ask) (ids : List Nat)
  | added (k id : Nat)
  | removed (k id : Nat)
  | sent (k id : Nat) (taken : Bool)
  | replied (k : Nat) (r : Reply)

namespace Event

def call : Event → Nat
  | .asked k _ _ | .added k _ | .removed k _ | .sent k _ _ | .replied k _ => k

def adds (id : Nat) : Event → Bool
  | .added _ other => other == id
  | _ => false

def removes (id : Nat) : Event → Bool
  | .removed _ other => other == id
  | _ => false

def sent? (k : Nat) : Event → Option (Nat × Bool)
  | .sent j id taken => if j = k then some (id, taken) else none
  | _ => none

-- After the last removal there is nothing left to do but to reply.
def resumed (k : Nat) : Option Round → List Event
  | some _ => []
  | none => [.replied k .disconnected]

end Event

-- The sends of a call, and whether they were taken.
def sends (k : Nat) (seen : List Event) : List (Nat × Bool) := seen.filterMap (·.sent? k)

-- One step of a call. A call that waits for a socket may be cancelled.
inductive Goes (k : Nat) (a : Ask) : Point → Exchange → List Event → Point → Exchange → Prop where
  | accept (s : Socket) (x : Exchange) :
      Goes k a (.accepting s) x [.added k (x.connections.connect s).1]
        (.added (x.connections.connect s).1) { x with connections := (x.connections.connect s).2 }
  | refuse (s : Socket) (x : Exchange) : Goes k a (.accepting s) x [.replied k .raised] .ended x
  | countUp (id : Nat) (x : Exchange) :
      Goes k a (.added id) x [.replied k (.connected id)] .ended
        { x with gauge := x.gauge + Happening.opened.socketChange }
  | finish (m : Datum) (taken : Nat) (x : Exchange) :
      Goes k a (.sending ⟨m, [], taken⟩) x [.replied k (a.told taken)] .ended x
  | skip {m : Datum} {id : Nat} {todo : List Nat} {taken : Nat} {x : Exchange}
      (absent : x.connections.isConnected id = false) :
      Goes k a (.sending ⟨m, id :: todo, taken⟩) x [] (.sending ⟨m, todo, taken⟩) x
  | address {m : Datum} {id : Nat} {todo : List Nat} {taken : Nat} {x : Exchange}
      (present : x.connections.isConnected id = true) :
      Goes k a (.sending ⟨m, id :: todo, taken⟩) x [] (.waiting id ⟨m, todo, taken⟩) x
  | deliver (id : Nat) (r : Round) (x : Exchange) :
      Goes k a (.waiting id r) x [.sent k id true] (.sending { r with taken := r.taken + 1 })
        { x with connections := x.connections.deliver id r.m }
  | fail (id : Nat) (r : Round) (x : Exchange) :
      Goes k a (.waiting id r) x [.sent k id false] (.leaving id (some r)) x
  | remove {id : Nat} {after : Option Round} {x : Exchange}
      (present : x.connections.isConnected id = true) :
      Goes k a (.leaving id after) x [.removed k id] (.removed id after)
        { x with connections := x.connections.disconnect id }
  | miss {id : Nat} {after : Option Round} {x : Exchange}
      (absent : x.connections.isConnected id = false) :
      Goes k a (.leaving id after) x (Event.resumed k after) (.resumed after) x
  | countDown (id : Nat) (after : Option Round) (x : Exchange) :
      Goes k a (.removed id after) x (Event.resumed k after) (.resumed after)
        { x with gauge := x.gauge + Happening.closed.socketChange }
  | hangUp (s : Socket) (x : Exchange) : Goes k a (.accepting s) x [] .ended x
  | giveUp (id : Nat) (r : Round) (x : Exchange) : Goes k a (.waiting id r) x [] .ended x

structure Call where
  ask : Ask
  -- What was connected when the call began.
  ids : List Nat
  point : Point

structure Board where
  exchange : Exchange
  calls : List Call := []

inductive Step : Board → List Event → Board → Prop where
  | begin (b : Board) (a : Ask) :
      Step b [.asked b.calls.length a b.exchange.connections.connected]
        { b with calls := b.calls ++
          [⟨a, b.exchange.connections.connected, a.start b.exchange.connections.connected⟩] }
  | go {b : Board} {k : Nat} {call : Call} {events : List Event} {point : Point} {x : Exchange}
      (running : b.calls[k]? = some call)
      (goes : Goes k call.ask call.point b.exchange events point x) :
      Step b events ⟨x, b.calls.set k { call with point }⟩

-- Calls from the beginning, when nothing is connected.
inductive Runs (gauge : Int) : List Event → Board → Prop where
  | start : Runs gauge [] { exchange := { gauge } }
  | step {seen events : List Event} {b b' : Board} (runs : Runs gauge seen b)
      (step : Step b events b') : Runs gauge (seen ++ events) b'

-- Numbers are given once, so a connection that is gone does not come back.
structure Sound (c : Connections) : Prop where
  distinct : c.connected.Nodup
  known : ∀ id ∈ c.connected, id < c.sockets.length

structure Gone (c : Connections) (id : Nat) : Prop where
  known : id < c.sockets.length
  absent : id ∉ c.connected

structure Later (c d : Connections) : Prop where
  more : c.sockets.length ≤ d.sockets.length
  gone : ∀ id, Gone c id → Gone d id

variable {k : Nat} {a : Ask} {p p' : Point} {x x' : Exchange} {events seen : List Event}
  {c d : Connections}

theorem later_refl (c : Connections) : Later c c := ⟨Nat.le_refl _, fun _ gone => gone⟩

theorem isConnected_iff {id : Nat} : c.isConnected id = true ↔ id ∈ c.connected := by
  simp [Connections.isConnected]

theorem not_isConnected {id : Nat} : c.isConnected id = false ↔ id ∉ c.connected := by
  simp [Connections.isConnected]

theorem mem_disconnect {id other : Nat} :
    other ∈ (c.disconnect id).connected ↔ other ∈ c.connected ∧ other ≠ id := by
  simp [Connections.disconnect]

theorem deliver_sockets (id : Nat) (m : Datum) :
    (c.deliver id m).sockets.length = c.sockets.length := by
  simp [Connections.deliver]

theorem connect_sound (sound : Sound c) (s : Socket) : Sound (c.connect s).2 := by
  have fresh : c.sockets.length ∉ c.connected := fun listed => Nat.lt_irrefl _ (sound.known _ listed)
  constructor
  · refine List.nodup_append.mpr ⟨sound.distinct, List.nodup_singleton _, fun id old other new same => ?_⟩
    exact fresh (List.mem_singleton.mp new ▸ same ▸ old)
  · intro id listed
    simp only [Connections.connect, List.mem_append, List.mem_singleton, List.length_append,
      List.length_singleton] at listed ⊢
    rcases listed with old | rfl
    · exact Nat.lt_succ_of_lt (sound.known id old)
    · exact Nat.lt_succ_self _

theorem connect_later (s : Socket) : Later c (c.connect s).2 := by
  have more : c.sockets.length ≤ (c.connect s).2.sockets.length := by simp [Connections.connect]
  refine ⟨more, fun id gone => ⟨Nat.lt_of_lt_of_le gone.known more, fun listed => ?_⟩⟩
  rcases List.mem_append.mp listed with old | new
  · exact gone.absent old
  · exact Nat.lt_irrefl _ (List.mem_singleton.mp new ▸ gone.known)

theorem disconnect_later (id : Nat) : Later c (c.disconnect id) :=
  ⟨Nat.le_refl _, fun _ gone => ⟨gone.known, fun listed => gone.absent (mem_disconnect.mp listed).1⟩⟩

theorem deliver_later (id : Nat) (m : Datum) : Later c (c.deliver id m) :=
  ⟨Nat.le_of_eq (deliver_sockets id m).symm,
    fun _ gone => ⟨(deliver_sockets id m).symm ▸ gone.known, gone.absent⟩⟩

theorem deliver_sound (sound : Sound c) (id : Nat) (m : Datum) : Sound (c.deliver id m) :=
  ⟨sound.distinct, fun other listed => (deliver_sockets id m).symm ▸ sound.known other listed⟩

theorem disconnect_sound (sound : Sound c) (id : Nat) : Sound (c.disconnect id) :=
  ⟨sound.distinct.filter _, fun other listed => sound.known other (mem_disconnect.mp listed).1⟩

theorem goes_sound (goes : Goes k a p x events p' x') (sound : Sound x.connections) :
    Sound x'.connections := by
  cases goes with
  | accept s => exact connect_sound sound s
  | deliver id r => exact deliver_sound sound id r.m
  | @remove id => exact disconnect_sound sound id
  | _ => exact sound

theorem goes_later (goes : Goes k a p x events p' x') : Later x.connections x'.connections := by
  cases goes with
  | accept s => exact connect_later s
  | deliver id r => exact deliver_later id r.m
  | @remove id => exact disconnect_later id
  | _ => exact later_refl _

-- The gauge and what the call owes to it grow as the connections do.
theorem goes_count (goes : Goes k a p x events p' x') (sound : Sound x.connections) :
    x'.gauge + p'.owed - x'.connections.count = x.gauge + p.owed - x.connections.count := by
  cases goes with
  | accept s =>
    simp only [Connections.connect, Connections.count, Point.owed, List.length_append,
      List.length_singleton]
    omega
  | countUp id => simp [Point.owed, Happening.opened_change]
  | @remove id after x present =>
    have listed := isConnected_iff.mp present
    have less : (x.connections.disconnect id).count + 1 = x.connections.count := by
      have one := List.length_erase_add_one listed
      rwa [sound.distinct.erase_eq_filter] at one
    simp only [Point.owed]
    omega
  | miss absent =>
    rename_i after
    cases after with
    | none => rfl
    | some => rfl
  | countDown id after =>
    cases after with
    | none => simp [Point.owed, Point.resumed, Happening.closed_change]
    | some => simp [Point.owed, Point.resumed, Happening.closed_change]
  | _ => rfl

theorem sum_set {l : List Int} {i : Nat} {old new : Int} (at_ : l[i]? = some old) :
    (l.set i new).sum + old = l.sum + new := by
  induction l generalizing i with
  | nil => simp at at_
  | cons first rest ih =>
    cases i with
    | zero =>
      simp only [List.getElem?_cons_zero, Option.some.injEq] at at_
      simp only [List.set_cons_zero, List.sum_cons]
      omega
    | succ i =>
      have tail := ih (by simpa using at_)
      simp only [List.set_cons_succ, List.sum_cons]
      omega

def Board.owed (b : Board) : Int := (b.calls.map (·.point.owed)).sum

theorem owed_set {calls : List Call} {call : Call} (running : calls[k]? = some call) (point : Point) :
    ((calls.set k { call with point }).map (·.point.owed)).sum + call.point.owed =
      (calls.map (·.point.owed)).sum + point.owed := by
  rw [List.map_set]
  exact sum_set (by simp [running])

theorem added_adds (id other : Nat) :
    [Event.added k other].countP (·.adds id) = if other = id then 1 else 0 := by
  simp [List.countP_singleton, Event.adds]

theorem added_removes (id other : Nat) : [Event.added k other].countP (·.removes id) = 0 := rfl

theorem removed_adds (id other : Nat) : [Event.removed k other].countP (·.adds id) = 0 := rfl

theorem removed_removes (id other : Nat) :
    [Event.removed k other].countP (·.removes id) = if other = id then 1 else 0 := by
  simp [List.countP_singleton, Event.removes]

-- Nothing is added twice, and what has been added and not removed is connected.
structure Entered (seen : List Event) (c : Connections) : Prop where
  added : ∀ id, seen.countP (·.adds id) = if id < c.sockets.length then 1 else 0
  removed : ∀ id, seen.countP (·.adds id) =
    seen.countP (·.removes id) + if id ∈ c.connected then 1 else 0

theorem entered_quiet (entered : Entered seen c) (more : d.sockets.length = c.sockets.length)
    (same : d.connected = c.connected) (noAdds : ∀ id, events.countP (·.adds id) = 0)
    (noRemoves : ∀ id, events.countP (·.removes id) = 0) : Entered (seen ++ events) d := by
  constructor
  · intro id
    rw [List.countP_append, noAdds, more]
    exact entered.added id
  · intro id
    rw [List.countP_append, List.countP_append, noAdds, noRemoves, same]
    exact entered.removed id

theorem resumed_quiet (after : Option Round) (id : Nat) :
    (Event.resumed k after).countP (·.adds id) = 0 ∧ (Event.resumed k after).countP (·.removes id) = 0 := by
  cases after with
  | none => exact ⟨rfl, rfl⟩
  | some => exact ⟨rfl, rfl⟩

theorem goes_entered (goes : Goes k a p x events p' x') (sound : Sound x.connections)
    (entered : Entered seen x.connections) : Entered (seen ++ events) x'.connections := by
  cases goes with
  | accept s =>
    have fresh : x.connections.sockets.length ∉ x.connections.connected :=
      fun listed => Nat.lt_irrefl _ (sound.known _ listed)
    constructor
    · intro id
      have before := entered.added id
      simp only [Connections.connect, List.countP_append, added_adds, List.length_append,
        List.length_singleton]
      split at before
      · rw [before, if_neg (by omega), if_pos (by omega)]
      · split
        · rw [before, if_pos (by omega)]
        · rw [before, if_neg (by omega)]
    · intro id
      have before := entered.removed id
      simp only [Connections.connect, List.countP_append, added_adds, added_removes, List.mem_append,
        List.mem_singleton, Nat.add_zero]
      by_cases new : x.connections.sockets.length = id
      · rw [if_neg (new ▸ fresh)] at before
        rw [before, if_pos new, if_pos (.inr new.symm), Nat.add_zero]
      · rw [before, if_neg new, Nat.add_zero]
        simp [Ne.symm new]
  | @remove other after x present =>
    have listed := isConnected_iff.mp present
    constructor
    · intro id
      rw [List.countP_append, removed_adds]
      exact entered.added id
    · intro id
      have before := entered.removed id
      simp only [List.countP_append, removed_adds, removed_removes, mem_disconnect, Nat.add_zero]
      by_cases same : other = id
      · subst same
        rw [if_pos listed] at before
        simp [before]
      · simp [before, same, Ne.symm same]
  | deliver id r =>
    exact entered_quiet entered (deliver_sockets id r.m) rfl (fun _ => rfl) (fun _ => rfl)
  | @miss _ after =>
    exact entered_quiet entered rfl rfl (fun id => (resumed_quiet after id).1)
      (fun id => (resumed_quiet after id).2)
  | countDown _ after =>
    exact entered_quiet entered rfl rfl (fun id => (resumed_quiet after id).1)
      (fun id => (resumed_quiet after id).2)
  | _ => exact entered_quiet entered rfl rfl (fun _ => rfl) (fun _ => rfl)

end Exchange
end ScriptArena.Service
