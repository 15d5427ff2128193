import ScriptArena.Arena.Snapshot
import ScriptArena.Service.Metrics
import ScriptArena.Service.Target

namespace ScriptArena.Service
open Arena

inductive Body where
  | none
  | document (d : Datum)
  | text (s : String)

structure HttpRequest where
  method : String
  target : String
  body : Body := .none

structure HttpResponse where
  status : Nat
  body : Option Datum := none

inductive Crash where
  | refused (why : Refusal)
  | signedOut (why : Progress.SignedOutMeanwhile)

namespace HttpResponse

def ok (d : Datum) : HttpResponse := ⟨200, some d⟩

def detail (status : Nat) (text : String) : HttpResponse :=
  ⟨status, some (.object [("detail", .str text)])⟩

def notFound (text : String := "Resource not found") : HttpResponse := detail 404 text
def badRequest (text : String := "Bad request") : HttpResponse := detail 400 text
def conflict (text : String := "Conflict") : HttpResponse := detail 409 text
def notAllowed : HttpResponse := detail 405 "Method Not Allowed"
def redirect : HttpResponse := ⟨307, none⟩
def unprocessable : HttpResponse := ⟨422, none⟩

end HttpResponse

-- A document may have this many lists and mappings open at once, which stands for the host's limit on
-- recursion.
def maxBodyDepth : Nat := 960

def withoutMark : List Char → List Char
  | '\ufeff' :: rest => rest
  | cs => cs

def readText (s : String) : Except HttpResponse Datum :=
  if s.isEmpty then .error .unprocessable
  else match Json.read maxBodyDepth (String.ofList (withoutMark s.toList)) with
    | .ok d => .ok d
    | .error .malformed => .error .unprocessable
    | .error _ => .error (.badRequest "There was an error parsing the body")

-- The fields of a body, which must have some form of them.
def Body.fields (b : Body) : Except HttpResponse Datum := do
  let d ← match b with
    | .none => .error .unprocessable
    | .document d => .ok d
    | .text s => readText s
  match d with
  | .dict _ => .ok d
  | _ => .error .unprocessable

-- A text of a length between two bounds.
def textField (d : Datum) (name : String) (default : Option String) (least most : Nat) :
    Except HttpResponse String :=
  match d.field? name, default with
  | some (.str s), _ =>
    if least ≤ s.length ∧ s.length ≤ most then .ok s else .error .unprocessable
  | some _, _ => .error .unprocessable
  | Option.none, some s => .ok s
  | Option.none, Option.none => .error .unprocessable

-- The name of a heading, exactly as it is spelled.
def directionField (d : Datum) : Except HttpResponse Direction :=
  match d.field? "direction" with
  | some (.str s) => match Direction.ofName? s with
    | some d => .ok d
    | Option.none => .error .unprocessable
  | _ => .error .unprocessable

inductive Action where
  | state | toggle | turn | submit | skip | hint | reset | signIn | signOut
  | challenges
  | challenge (id : String)
  | health | index
  | page
deriving Repr, DecidableEq

-- A path is fixed, or ends with any one segment.
inductive Pattern where
  | fixed (path : String)
  | ended (stem : String) (action : String → Action)

structure Route where
  method : String
  pattern : Pattern
  action : Action := .page

namespace Route

def fixed (method path : String) (action : Action) : Route := ⟨method, .fixed path, action⟩

def pages : List String := ["/openapi.json", "/docs", "/docs/oauth2-redirect", "/redoc", "/metrics"]

def challengeStem : String := "/api/challenges/"

def all : List Route :=
  pages.map (fixed "GET" · .page) ++
  [fixed "GET" "/api/game/state" .state, fixed "POST" "/api/game/toggle" .toggle,
   fixed "POST" "/api/game/direction" .turn, fixed "POST" "/api/game/run" .submit,
   fixed "POST" "/api/game/skip" .skip, fixed "POST" "/api/game/hint" .hint,
   fixed "POST" "/api/game/reset" .reset, fixed "PUT" "/api/game/player" .signIn,
   fixed "DELETE" "/api/game/player" .signOut, fixed "GET" challengeStem .challenges,
   ⟨"GET", .ended challengeStem .challenge, .page⟩, fixed "GET" "/health" .health,
   fixed "GET" "/" .index]

-- A line break at the end of a path does not count.
def isPath (fixed : String) (path : List Char) : Bool :=
  path == fixed.toList || path == fixed.toList ++ ['\n']

def action? (r : Route) (path : List Char) : Option Action :=
  match r.pattern with
  | .fixed p => if isPath p path then some r.action else none
  | .ended stem action =>
    let last := path.drop stem.length
    if stem.toList.isPrefixOf path && !last.isEmpty && !last.contains '/' then
      some (action (String.ofList last))
    else none

end Route

inductive Destination where
  | action (a : Action)
  | answer (r : HttpResponse)

-- The path with a slash at its end, or without any.
def otherPath (path : List Char) : List Char :=
  if path.getLast? = some '/' then (path.reverse.dropWhile (· == '/')).reverse else path ++ ['/']

def isKnown (path : List Char) : Bool := Route.all.any fun r => (r.action? path).isSome

-- The route of the method is taken, if there is one for the path. A path that is only known with
-- or without a slash at its end is redirected.
def destination (method : String) (path : List Char) : Destination :=
  match Route.all.findSome? fun r => if r.method = method then r.action? path else none with
  | some a => .action a
  | none =>
    if isKnown path then .answer .notAllowed
    else if path != ['/'] && isKnown (otherPath path) then .answer .redirect
    else .answer (.notFound "Not Found")

def stateBody (e : Engine) : Datum := e.snapshot.document

def stateResponse (e : Engine) : HttpResponse := .ok (stateBody e)

-- The first actions only show something.
def indexBody (c : Config) : Datum :=
  .object [("name", .str "CodeQuest Arena"),
    ("tagline", .str "Eat the food, dodge the bugs, solve the code"), ("version", .str "0.1.0"),
    ("docs", .str "/docs"),
    ("endpoints", .object [("game", .str "/api/game"), ("challenges", .str "/api/challenges"),
      ("websocket", .str "/api/ws")]),
    ("rules", .object [
      ("food", .str ("+" ++ Number.intText c.foodPoints ++ " points and one segment")),
      ("bug", .str ("-" ++ Number.intText c.bugPenalty ++ " points and two segments")),
      ("challenge", .str "Pauses the arena until the exercise is solved or skipped")])]

def challengeList (e : Engine) : Datum :=
  .list (e.catalog.toList.zipIdx.map fun (c, i) => .object (c.fields id ++ [("index", .int i)]))

def showChallenge (challenge : String) (e : Engine) : HttpResponse :=
  match e.catalog.find? challenge with
  | none => .notFound ("Challenge " ++ challenge ++ " not found")
  | some c => .ok (.object (c.fields id ++ [("solved", .bool (e.state.solved.contains c.id))]))

def submitResponse (verdicts : List Verdict) (e : Engine) : HttpResponse :=
  .ok (.object [("passed", .bool (Engine.isSolvedBy verdicts)),
    ("results", .list (verdicts.map (·.document))), ("state", stateBody e)])

def hintResponse (text : Option String) (e : Engine) : HttpResponse :=
  .ok (.object [("hint", .optionalText text), ("hints_revealed", .int e.state.hints),
    ("state", stateBody e)])

def playerResponse (t : Progress.Tracker) : HttpResponse :=
  .ok (.object [("user_id", .optionalText t.user?), ("high_score", .int t.highScore),
    ("completed_challenge_ids", .texts t.completed)])

abbrev Answered := Except Crash HttpResponse × Engine

-- Actions that need a challenge are in conflict with a game without one.
def Answered.ofRefusal (r : Refusal) (e : Engine) : Answered :=
  match r with
  | .noActiveChallenge | .nothingToSkip => (.ok (.conflict r.message), e)
  | r => (.error (.refused r), e)

def turnAnswer (b : Body) (e : Engine) : Answered :=
  match b.fields.bind directionField with
  | .error r => (.ok r, e)
  | .ok d => let e := e.setDirection d; (.ok (stateResponse e), e)

def maxCodeLength : Nat := 20000

def submitAnswer (b : Body) (e : Engine) : Answered :=
  match b.fields.bind fun d => textField d "code" (some "") 0 maxCodeLength with
  | .error r => (.ok r, e)
  | .ok code =>
    match e.submit code with
    | (.error r, e) => .ofRefusal r e
    | (.ok verdicts, e) => let (_, e) := e.flush; (.ok (submitResponse verdicts e), e)

def skipAnswer (e : Engine) : Answered :=
  match e.skip with
  | (.error r, e) => .ofRefusal r e
  | (.ok _, e) => (.ok (stateResponse e), e)

def hintAnswer (e : Engine) : Answered :=
  match e.hint with
  | (.error r, e) => .ofRefusal r e
  | (.ok text, e) => (.ok (hintResponse text e), e)

def maxUserLength : Nat := 100

def signInAnswer (b : Body) (e : Engine) : Answered :=
  match b.fields.bind fun d => textField d "user_id" none 1 maxUserLength with
  | .error r => (.ok r, e)
  | .ok user =>
    match e.signIn user with
    | (.ok _, e) => (.ok (playerResponse e.tracker), e)
    | (.error why, e) => (.error (.signedOut why), e)

def Action.answer (rules : Config) (a : Action) (b : Body) (e : Engine) : Answered :=
  match a with
  | .state => (.ok (stateResponse e), e)
  | .toggle => let e := e.togglePlay; (.ok (stateResponse e), e)
  | .turn => turnAnswer b e
  | .submit => submitAnswer b e
  | .skip => skipAnswer e
  | .hint => hintAnswer e
  | .reset => let (_, e) := e.reset.flush; (.ok (stateResponse e), e)
  | .signIn => signInAnswer b e
  | .signOut =>
    let (_, e) := e.flush
    let e := e.signOut
    (.ok (playerResponse e.tracker), e)
  | .challenges => (.ok (.ok (challengeList e)), e)
  | .challenge id => (.ok (showChallenge id e), e)
  | .health => (.ok (.ok (.object [("status", .str "healthy")])), e)
  | .index => (.ok (.ok (indexBody rules)), e)
  | .page => (.ok ⟨200, none⟩, e)

def statusOf : Except Crash HttpResponse → Nat
  | .ok r => r.status
  | .error _ => 500

-- The path under which a request is counted.
def countedPath (path : List Char) : String :=
  String.ofList (Target.cutAt '?' (Target.cutAt '#' path))

-- Answer a request. Every request is counted by its status, also if it crashes.
def HttpRequest.answer (q : HttpRequest) (e : Engine) : Answered × Happening :=
  let path := Target.path q.target
  let answered : Answered := match destination q.method path with
    | .action a => a.answer {} q.body e
    | .answer r => (.ok r, e)
  (answered, .answered q.method (countedPath path) (statusOf answered.1))

end ScriptArena.Service
