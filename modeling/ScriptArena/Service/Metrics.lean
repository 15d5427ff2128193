import ScriptArena.Arena.Engine
import ScriptArena.Service.Endpoint

namespace ScriptArena.Service

structure Sample where
  name : String
  -- Sorted by name.
  labels : List (String × String)
deriving Repr, DecidableEq

def Sample.text (s : Sample) : String :=
  s.name ++ "\x7b" ++ ",".intercalate (s.labels.map fun (name, label) => name ++ "=" ++ label) ++ "\x7d"

inductive Happening where
  | played (count : Arena.Count)
  | answered (method path : String) (status : Nat)
  | opened
  | closed
deriving Repr, DecidableEq

namespace Happening

def ofCount : Arena.Count → List (Sample × Int)
  | .step event => [(⟨"arena_ticks_total", [("event", event.name)]⟩, 1)]
  | .gameOver reason =>
    [(⟨"game_overs_total", [("reason", reason.elim "unknown" (·.name))]⟩, 1)]
  | .solved challenge => [(⟨"challenges_solved_total", [("challenge_id", challenge)]⟩, 1)]
  | .submission challenge outcome =>
    [(⟨"code_submissions_total", [("challenge_id", challenge), ("result", outcome.name)]⟩, 1),
     (⟨"code_evaluation_duration_seconds_count", [("challenge_id", challenge)]⟩, 1)]

def metricsPath : String := "/metrics"

def ofRequest (method path : String) (status : Nat) : List (Sample × Int) :=
  if path = metricsPath then []
  else
    let labels := [("endpoint", Endpoint.normalize path), ("method", method)]
    [(⟨"http_requests_total", labels ++ [("status", Number.decimal status)]⟩, 1),
     (⟨"http_request_duration_seconds_count", labels⟩, 1)]

def socketSample : Sample := ⟨"websocket_connections_active", []⟩

def samples (enabled : Bool) : Happening → List (Sample × Int)
  | .played count => if enabled then ofCount count else []
  | .answered method path status => ofRequest method path status
  | .opened => [(socketSample, 1)]
  | .closed => [(socketSample, -1)]

end Happening

abbrev Increases := List (Sample × Int)

namespace Increases

def add (increases : Increases) (change : Sample × Int) : Increases :=
  match increases with
  | [] => [change]
  | (s, n) :: rest => if s = change.1 then (s, n + change.2) :: rest else (s, n) :: add rest change

-- Samples that are back where they were have not grown.
def ofHappenings (enabled : Bool) (happenings : List Happening) : Increases :=
  ((happenings.flatMap (·.samples enabled)).foldl add []).filter (·.2 ≠ 0)

end Increases

-- What is said about the program itself.
def infoSample : Sample := ⟨"codequest_info", [("environment", "development"), ("version", "0.1.0")]⟩

end ScriptArena.Service
