import ScriptArena.Progress.Record

namespace ScriptArena.Progress

inductive RequestKind where
  | get | set | add
deriving Repr, DecidableEq

def RequestKind.name : RequestKind → String
  | .get => "get" | .set => "set" | .add => "add"

def RequestKind.all : List RequestKind := [.get, .set, .add]

inductive Request where
  | get (user : String)
  | set (user : String) (score : Int)
  | add (user challenge : String)
deriving Repr, DecidableEq

def Request.kind : Request → RequestKind
  | .get _ => .get | .set .. => .set | .add .. => .add

def Request.user : Request → String
  | .get user | .set user _ | .add user _ => user

inductive Interruption where
  | signOut
  | signIn (user : String)
  | reach (readable writable : Bool)
deriving Repr, DecidableEq

-- A link knows what will happen during its next requests, and lists the requests that it was given.
structure Link where
  store : Store := {}
  readable : Bool := true
  writable : Bool := true
  awaiting : List (RequestKind × List Interruption) := []
  requests : List Request := []
deriving Repr, DecidableEq

namespace Link

def reaches (l : Link) : RequestKind → Bool
  | .get => l.readable
  | .set | .add => l.writable

def record (q : Request) (l : Link) : Link := { l with requests := l.requests ++ [q] }

-- From now on the store can be read and written as given.
def setReach (readable writable : Option Bool) (l : Link) : Link :=
  { l with readable := readable.getD l.readable, writable := writable.getD l.writable }

-- What happens during a request happens once.
def take (kind : RequestKind) (l : Link) : List Interruption × Link :=
  match l.awaiting.find? (·.1 = kind) with
  | some found => (found.2, { l with awaiting := l.awaiting.erase found })
  | none => ([], l)

-- The effect of a request that has reached the store.
def serve (q : Request) (l : Link) : Link :=
  match q with
  | .get _ => l
  | .set user score => { l with store := l.store.setHighScore user score }
  | .add user challenge => { l with store := l.store.addCompleted user challenge }

end Link
end ScriptArena.Progress
