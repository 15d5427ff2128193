import ScriptArena.Value.Datum

namespace ScriptArena.Service

-- A socket, what it has taken, and how much it takes before it fails.
structure Socket where
  limit : Option Nat := none
  received : List Datum := []

def Socket.takes (s : Socket) : Bool := s.limit.all (s.received.length < ·)

def Socket.take (m : Datum) (s : Socket) : Socket := { s with received := s.received ++ [m] }

-- All sockets so far by number, and the numbers of those that are connected, the oldest
-- first.
structure Connections where
  sockets : List Socket := []
  connected : List Nat := []

namespace Connections

def connect (s : Socket) (c : Connections) : Nat × Connections :=
  (c.sockets.length, ⟨c.sockets ++ [s], c.connected ++ [c.sockets.length]⟩)

def disconnect (id : Nat) (c : Connections) : Connections :=
  { c with connected := c.connected.filter (· != id) }

def isConnected (id : Nat) (c : Connections) : Bool := c.connected.contains id

def count (c : Connections) : Nat := c.connected.length

def received (id : Nat) (c : Connections) : List Datum := (c.sockets[id]?).elim [] (·.received)

-- Send a message to one socket. Is it taken?
def send (id : Nat) (m : Datum) (c : Connections) : Bool × Connections :=
  if c.isConnected id then
    match c.sockets[id]? with
    | some s =>
      if s.takes then (true, { c with sockets := c.sockets.set id (s.take m) })
      else (false, c.disconnect id)
    | none => (false, c)
  else (false, c)

def sendAll (m : Datum) : List Nat → Connections → Nat × Connections
  | [], c => (0, c)
  | id :: rest, c =>
    let (taken, c) := c.send id m
    let (count, c) := sendAll m rest c
    (if taken then count + 1 else count, c)

def broadcast (m : Datum) (c : Connections) : Nat × Connections := sendAll m c.connected c

end Connections
end ScriptArena.Service
