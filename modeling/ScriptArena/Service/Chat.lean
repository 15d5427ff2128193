import ScriptArena.Arena.Command

namespace ScriptArena.Service
open Arena

inductive Message where
  | pong
  | gameState (s : Snapshot)
  | error (text : String)

def Message.document : Message → Datum
  | .pong => .object [("type", .str "pong")]
  | .gameState s => .object [("type", .str "game_state"), ("data", s.document)]
  | .error text => .object [("type", .str "error"), ("message", .str text)]

def invalidMessage : Message := .error "Invalid JSON"

-- Data that stand for nothing.
def isVoid : Datum → Bool
  | .none => true
  | .bool b => !b
  | .int n => n = 0
  | .float x => x == 0.0
  | .str s => s.isEmpty
  | .list items | .tuple items => items.isEmpty
  | .dict entries => entries.isEmpty

-- A text stands for itself, anything else is shown.
def plainText : Datum → Except Trouble String
  | .str s => .ok s
  | d => d.shown

def turn (d : Datum) (e : Engine) : Except Fault (Option Message) × Engine :=
  if isVoid d then (.ok (some (.error "Missing direction")), e)
  else match e.turn d with
    | (.ok _, e) => (.ok none, e)
    | (.error (.unreadable fault), e) => (.error fault, e)
    | (.error why, e) => (.ok (some (.error why.message)), e)

def handle (message : Datum) (e : Engine) : Except Fault (Option Message) × Engine :=
  let type := (message.field? "type").getD .none
  match type with
  | .str "ping" => (.ok (some .pong), e)
  | .str "get_state" => (.ok (some (.gameState e.snapshot)), e)
  | .str "direction" => turn ((message.field? "direction").getD .none) e
  | .str "toggle" => (.ok none, e.togglePlay)
  | type => match plainText type with
    | .ok text => (.ok (some (.error ("Unknown message type: " ++ text))), e)
    | .error trouble => (.error trouble, e)

inductive Breakdown where
  | socketClosed
  | tooDeep
deriving Repr, DecidableEq

-- A socket that fails when it has taken `limit` messages, and the engine behind it.
structure Talk where
  engine : Engine
  limit : Option Nat := none
  sent : List Message := []

namespace Talk

def send (m : Message) (t : Talk) : Except Breakdown Unit × Talk :=
  if t.limit.all (t.sent.length < ·) then (.ok (), { t with sent := t.sent ++ [m] })
  else (.error .socketClosed, t)

-- Texts may have this many lists and mappings open at once, which stands for the host's limit on
-- recursion.
def maxDepth : Nat := 960

def reply (m : Option Message) (t : Talk) : Except Breakdown Unit × Talk :=
  match m with
  | some m => t.send m
  | none => (.ok (), t)

-- Anything but a message is called invalid.
def hear (text : String) (t : Talk) : Except Breakdown Unit × Talk :=
  match Json.read maxDepth text with
  | .error .tooDeep => (.error .tooDeep, t)
  | .error _ => t.send invalidMessage
  | .ok d@(.dict _) =>
    match handle d t.engine with
    | (.ok m, engine) => { t with engine }.reply m
    | (.error _, engine) => { t with engine }.send invalidMessage
  | .ok _ => t.send invalidMessage

def hearAll : List String → Talk → Except Breakdown Unit × Talk
  | [], t => (.ok (), t)
  | text :: rest, t =>
    match t.hear text with
    | (.ok _, t) => hearAll rest t
    | (.error why, t) => (.error why, t)

-- A whole session: the state is sent first, then every text is heard.
def run (texts : List String) (t : Talk) : Except Breakdown Unit × Talk :=
  match t.send (.gameState t.engine.snapshot) with
  | (.ok _, t) => t.hearAll texts
  | (.error why, t) => (.error why, t)

end Talk
end ScriptArena.Service
