import ScriptArena.Arena.Snapshot

namespace ScriptArena.Arena

-- The heading that a datum names.
def Direction.ofDatum (d : Datum) : Except Refusal Direction :=
  match d with
  | .str s => named s s
  | d => match d.shown with
    | .ok text => named text text
    | .error fault => .error (.unreadable fault)
where
  named (text shown : String) : Except Refusal Direction :=
    match Direction.read? text with
    | some d => .ok d
    | none => .error (.unknownDirection shown)

inductive Command where
  | tick
  | ticks (n : Nat)
  | countdownTick
  | toggle
  | direction (d : Datum)
  | submit (source : String)
  | solve
  | skip
  | hint
  | reset
  | signIn (user : String)
  | signOut
  | flush
  | snapshot
  | look
  | set (s : State)
  | reach (readable writable : Option Bool)
  | await (awaiting : List (Progress.RequestKind × List Progress.Interruption))
  | subscribe (name : String)
  | unsubscribe (name : String)

inductive Reply where
  | done
  | event (e : Event)
  | events (es : List Event)
  | mode (m : Mode)
  | verdicts (vs : List Verdict)
  | passed (flags : List Bool)
  | hint (text : Option String)
  | written (n : Nat)
  | snapshot (s : Snapshot)
  | refused (why : Refusal)
  | signedOut (why : Progress.SignedOutMeanwhile)

namespace Engine

-- The reply to an action that may be refused.
def replied {α : Type} (reply : α → Reply) (result : Except Refusal α × Engine) :
    Reply × Engine :=
  match result with
  | (.ok a, e) => (reply a, e)
  | (.error r, e) => (.refused r, e)

def turn (d : Datum) (e : Engine) : Except Refusal Unit × Engine :=
  match Direction.ofDatum d with
  | .ok d => (.ok (), e.setDirection d)
  | .error r => (.error r, e)

def activeSolution (e : Engine) : String := e.state.active.elim "" (·.solution)

def overLink (f : Progress.Link → Progress.Link) (e : Engine) : Engine :=
  { e with tracker := { e.tracker with link := f e.tracker.link } }

def perform (c : Command) (e : Engine) : Reply × Engine :=
  match c with
  | .tick => replied .event e.tick
  | .ticks n => replied .events (e.ticks n)
  | .countdownTick => (.done, e.countdownTick)
  | .toggle => let e := e.togglePlay; (.mode e.state.mode, e)
  | .direction d => replied (fun _ => .done) (e.turn d)
  | .submit source => replied .verdicts (e.submit source)
  | .solve => replied (fun vs => .passed (vs.map (·.passed))) (e.submit e.activeSolution)
  | .skip => replied (fun _ => .done) e.skip
  | .hint => replied .hint e.hint
  | .reset => (.done, e.reset)
  | .signIn user => match e.signIn user with
    | (.ok _, e) => (.done, e)
    | (.error why, e) => (.signedOut why, e)
  | .signOut => (.done, e.signOut)
  | .flush => let (n, e) := e.flush; (.written n, e)
  | .snapshot => (.snapshot e.snapshot, e)
  | .look => (.done, e)
  | .set s => (.done, { e with state := s })
  | .reach readable writable => (.done, e.overLink (·.setReach readable writable))
  | .await awaiting => (.done, e.overLink ({ · with awaiting }))
  | .subscribe name => (.done, e.subscribe (.named name))
  | .unsubscribe name => (.done, e.dismiss name)

end Engine
end ScriptArena.Arena
