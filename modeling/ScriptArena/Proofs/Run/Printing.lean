import ScriptArena.Proofs.Run.Evaluation
import ScriptArena.Proofs.Run.Operations
import ScriptArena.Proofs.Run.Transcripts
import ScriptArena.Run.Session

namespace ScriptArena

namespace Run
open Transcript

variable {α β σ τ : Type} {l : Limits}

def last : EStateM.Result Fault Machine α → Machine
  | .ok _ m | .error _ m => m

-- The machine is left as it is.
def Still (l : Limits) (x : Run α) : Prop := ∀ m, last (x l m) = m

theorem still_step {x : Run α} {f : α → Run β} (first : Still l x) (rest : ∀ a, Still l (f a)) :
    Still l (x >>= f) := by
  intro m
  have same := first m
  rw [run_bind]
  cases ended : x l m with
  | error e mid =>
    rw [ended] at same
    exact same
  | ok a mid =>
    rw [ended] at same
    exact (rest a mid).trans same

theorem still_guarded (g : Limits → Heap → Except Trouble α) : Still l (guarded g) := by
  intro m
  rw [run_guarded]
  cases g l m.heap with
  | _ => rfl

theorem still_checkTime : Still l checkTime := by
  intro m
  rw [run_checkTime]
  cases l.time with
  | _ => rfl

theorem still_checkDepth : Still l checkDepth := by
  intro m
  rw [run_checkDepth]
  split
  · rfl
  · rfl

theorem last_tick (m : Machine) : last (tick l m) = m.counted := by
  rw [run_tick]
  split
  · rfl
  · split
    · exact still_checkTime m.counted
    · rfl

-- Whatever a computation ends with, it has only added to the transcript.
def Prints (l : Limits) (x : Run α) : Prop :=
  ∀ m, Continues l m.transcript (last (x l m)).transcript

theorem prints_step {x : Run α} {f : α → Run β} (first : Prints l x) (rest : ∀ a, Prints l (f a)) :
    Prints l (x >>= f) := by
  intro m
  have one := first m
  rw [run_bind]
  cases ended : x l m with
  | error e mid =>
    rw [ended] at one
    exact one
  | ok a mid =>
    rw [ended] at one
    exact one.trans (rest a mid)

-- The transcript is left as it is.
theorem prints_quiet {x : Run α} (quiet : ∀ m, (last (x l m)).transcript = m.transcript) :
    Prints l x := by
  intro m
  rw [quiet m]
  exact .refl

theorem Still.prints {x : Run α} (still : Still l x) : Prints l x :=
  prints_quiet fun m => congrArg Machine.transcript (still m)

theorem prints_tick : Prints l tick := by
  intro m
  rw [last_tick]
  exact .refl

theorem prints_emit (made : Made) : Prints l (emit made) := by
  intro m
  rw [run_emit]
  split
  · rename_i s
    exact .text .refl s
  · split
    · rename_i full
      exact .bytes .refl full
    · exact .refl

theorem prints_loop {probe : σ → Run (τ ⊕ α)} {body : τ → Run (σ ⊕ α)}
    (probes : ∀ s, Prints l (probe s)) (bodies : ∀ r, Prints l (body r)) (s : σ) :
    Prints l (loop probe body s) :=
  loop_keeps (P := fun _ x => Prints l x) (fun _ _ _ => .refl) prints_step prints_tick
    (fun _ => .refl) (fun _ => .refl) (fun _ _ => .refl) probes bodies s

theorem continues_leaving {given stopped : Machine → Machine} {t : Transcript}
    {r : EStateM.Result Fault Machine α} (continues : Continues l t (last r).transcript)
    (gave : ∀ m, (given m).transcript = m.transcript)
    (stops : ∀ m, (stopped m).transcript = m.transcript) :
    Continues l t (last (leaving given stopped r)).transcript := by
  cases r with
  | ok a m => exact (gave m).symm ▸ continues
  | error e m => exact (stops m).symm ▸ continues

theorem last_flushed (x : Run α) (m : Machine) :
    (last (flushed x l m)).transcript = (last (x l m)).transcript.flush l := by
  rw [run_flushed]
  cases x l m with
  | _ => rfl

-- All operations of the machine only add to the transcript.
theorem prints_composed {x : Run α} (composed : Composed (.free True) x) : Prints l x := by
  induction composed with
  | value | stop | look | change | allocate | define | bind | enter => exact prints_quiet fun _ => rfl
  | step _ _ first rest => exact prints_step first rest
  | inspect _ rest => exact prints_step (prints_quiet fun _ => rfl) fun c => rest c fun _ _ => trivial
  | guarded => exact (still_guarded _).prints
  | opened _ _ rests => exact prints_step (prints_quiet fun _ => rfl) fun i => rests i trivial
  | tick => exact prints_tick
  | checkTime => exact still_checkTime.prints
  | checkDepth => exact still_checkDepth.prints
  | emit made => exact prints_emit made
  | loop s _ _ probes bodies => exact prints_loop probes bodies s
  | called _ inner =>
    refine prints_step still_checkDepth.prints fun _ => ?_
    intro m
    rw [run_deeper]
    exact continues_leaving (inner m.deepened) (fun _ => rfl) fun _ => rfl
  | undoing _ _ _ inner =>
    intro m
    rw [run_undoing]
    exact continues_leaving (inner m) (fun _ => rfl) fun _ => rfl

-- What is put between the texts, and what behind them.
def marks : List (Option Value) → Value × Value
  | [mark, ending] => (orDefault " " mark, orDefault "\n" ending)
  | _ => (.str " ", .str "\n")

-- The text that is printed.
inductive Tells (h : Heap) (l : Limits) (args : Arguments) : String → Prop where
  | mk {b : Arguments.Bound} {mark ending : String} {parts : List String}
      (bound : (signature "print" [] 0 true ["sep", "end"]).bind args = .ok b)
      (marked : marks b.keywordOnly = (.str mark, .str ending))
      (shown : b.rest.mapM (Guard.text h l) = .ok parts) :
      Tells h l args (mark.intercalate parts ++ ending)

theorem run_settle (x : Except Trouble α) (l : Limits) (m : Machine) :
    settle x l m = match x with
      | .ok a => .ok a m
      | .error e => .error e.toFault m := by
  cases x with
  | _ => rfl

theorem still_settle (x : Except Trouble α) : Still l (settle x) := by
  cases x with
  | _ => exact fun _ => rfl

theorem still_texts (vs : List Value) : Still l (vs.mapM toText) := by
  induction vs with
  | nil => exact fun _ => rfl
  | cons v vs ih =>
    rw [List.mapM_cons]
    exact still_step (still_guarded _) fun _ => still_step ih fun _ _ => rfl

theorem still_joinBy (mark : Value) (parts : List String) : Still l (joinBy mark parts) := by
  refine still_step (fun _ => rfl) fun size => ?_
  cases size with
  | none => exact fun _ => rfl
  | some size =>
    refine still_step (still_guarded _) fun _ => ?_
    cases mark with
    | bytes b =>
      dsimp only
      split
      · exact fun _ => rfl
      · exact fun _ => rfl
    | _ => exact fun _ => rfl

theorem emit_error {made : Made} {m m' : Machine} {e : Fault} (failed : emit made l m = .error e m') :
    m' = m := by
  rw [run_emit] at failed
  split at failed
  · cases failed
  · split at failed
    · cases failed
    · cases failed
      rfl

theorem run_texts (vs : List Value) (m : Machine) :
    vs.mapM toText l m = match vs.mapM (Guard.text m.heap l) with
      | .ok parts => .ok parts m
      | .error e => .error e.toFault m := by
  induction vs with
  | nil => rfl
  | cons v vs ih =>
    rw [List.mapM_cons, List.mapM_cons, run_bind, toText, run_guarded]
    cases Guard.text m.heap l v with
    | error e => rfl
    | ok s =>
      dsimp only
      rw [run_bind, ih]
      cases vs.mapM (Guard.text m.heap l) with
      | error e => rfl
      | ok parts => rfl

theorem joinBy_ok {mark whole : Value} {parts : List String} {m m' : Machine}
    (joined : joinBy mark parts l m = .ok whole m') :
    m' = m ∧ ((∃ s, mark = .str s ∧ whole = .str (s.intercalate parts)) ∨ whole = .bytes []) := by
  obtain ⟨size, mid, looked, joined⟩ := bind_ok joined
  cases looked
  dsimp only at joined
  cases sized : mark.length? m.heap with
  | none =>
    rw [sized] at joined
    cases joined
  | some size =>
    rw [sized] at joined
    obtain ⟨_, mid, passed, joined⟩ := bind_ok joined
    rw [run_guarded] at passed
    split at passed
    · cases passed
      cases mark with
      | str s =>
        cases joined
        exact ⟨rfl, .inl ⟨s, rfl, rfl⟩⟩
      | bytes b =>
        dsimp only at joined
        split at joined
        · cases joined
          exact ⟨rfl, .inr rfl⟩
        · cases joined
      | _ => cases joined
    · cases passed

def printMarked (mark ending : Value) (vs : List Value) : Run Value := do
  let parts ← vs.mapM toText
  let whole ← joinBy mark parts
  emit (← ask fun h => Value.concat h whole ending)
  return .none

theorem printValues_marked (args : Arguments) :
    printValues args = (do
      let b ← settle ((signature "print" [] 0 true ["sep", "end"]).bind args)
      printMarked (marks b.keywordOnly).1 (marks b.keywordOnly).2 b.rest) :=
  rfl

-- A call that succeeds prints one text, unless it is bytes that are printed: these are lost with all
-- that comes once all lines are used up.
theorem printMarked_ok {mark ending v : Value} {vs : List Value} {m m' : Machine}
    (ran : printMarked mark ending vs l m = .ok v m') :
    (∃ parts s e, vs.mapM (Guard.text m.heap l) = .ok parts ∧ mark = .str s ∧ ending = .str e ∧
        m' = { m with transcript := m.transcript.print l (s.intercalate parts ++ e) }) ∨
      m.transcript.isFull l ∧
        m' = { m with transcript := { m.transcript with truncated := true, idle := true } } := by
  obtain ⟨parts, mid, texts, joining⟩ := bind_ok ran
  rw [run_texts] at texts
  split at texts
  · rename_i shown
    cases texts
    obtain ⟨whole, mid, joined, adding⟩ := bind_ok joining
    obtain ⟨same, kind⟩ := joinBy_ok joined
    rw [same] at adding
    obtain ⟨made, mid, added, emitting⟩ := bind_ok adding
    rw [run_ask] at added
    split at added
    · rename_i built
      cases added
      obtain ⟨u, mid, emitted, done⟩ := bind_ok emitting
      cases done
      rw [run_emit] at emitted
      obtain ⟨s, rfl, rfl⟩ | rfl := kind
      · cases ending with
        | str e =>
          cases built
          cases emitted
          exact .inl ⟨parts, s, e, shown, rfl, rfl, rfl⟩
        | _ => cases built
      · cases ending with
        | bytes b =>
          cases built
          dsimp only at emitted
          split at emitted
          · rename_i full
            cases emitted
            exact .inr ⟨full, rfl⟩
          · cases emitted
        | _ => cases built
    · cases added
  · cases texts

-- What fails prints nothing.
theorem still_failed {x : Run α} {f : α → Run β} {m m' : Machine} {e : Fault} (first : Still l x)
    (rest : ∀ a m, f a l m = .error e m' → m' = m) (failed : (x >>= f) l m = .error e m') :
    m' = m := by
  have same := first m
  rw [run_bind] at failed
  cases ended : x l m with
  | error e mid =>
    rw [ended] at failed same
    cases failed
    exact same
  | ok a mid =>
    rw [ended] at failed same
    exact (rest a mid failed).trans same

theorem printValues_error {args : Arguments} {m m' : Machine} {e : Fault}
    (failed : printValues args l m = .error e m') : m' = m := by
  rw [printValues_marked] at failed
  refine still_failed (still_settle _) (fun b m failed => ?_) failed
  refine still_failed (still_texts _) (fun parts m failed => ?_) failed
  refine still_failed (still_joinBy _ parts) (fun whole m failed => ?_) failed
  refine still_failed (still_step (fun _ => rfl) still_settle) (fun made m failed => ?_) failed
  rw [run_bind] at failed
  cases emitted : emit made l m with
  | error e mid =>
    rw [emitted] at failed
    cases failed
    exact emit_error emitted
  | ok u mid =>
    rw [emitted] at failed
    cases failed

theorem printValues_ok {args : Arguments} {v : Value} {m m' : Machine}
    (ran : printValues args l m = .ok v m') :
    (∃ text, Tells m.heap l args text ∧
        m' = { m with transcript := m.transcript.print l text }) ∨
      m.transcript.isFull l ∧
        m' = { m with transcript := { m.transcript with truncated := true, idle := true } } := by
  rw [printValues_marked] at ran
  obtain ⟨b, mid, settled, ran⟩ := bind_ok ran
  rw [run_settle] at settled
  split at settled
  · rename_i bound
    cases settled
    obtain ⟨parts, mark, ending, shown, sep, last, printed⟩ | full := printMarked_ok ran
    · exact .inl ⟨_, .mk bound (Prod.ext sep last) shown, printed⟩
    · exact .inr full
  · cases settled

end Run

namespace Session
open Lines Run Transcript

variable {p : Script.Program} {l : Limits} {s : Session} {T P : String}

-- What a session has printed so far, every line that a call left open being ended with the call.
-- Between the calls the host may change the heap.
inductive Told (p : Script.Program) (l : Limits) : Session → String → Prop where
  | started {s : Session} {T : String} (ran : start p l = .ok s)
      (printed : s.machine.transcript.printed.Is T) : Told p l s T
  | fed {s : Session} {T : String} (prior : Told p l s T) (h : Heap) :
      Told p l { s with machine := { s.machine with heap := h } } T
  | called {s : Session} {T P text : String} (prior : Told p l s T) (ample : l.time = .ample)
      (at_ : Nat) (args : List Value) (before : s.machine.transcript.printed.Is P)
      (after : (s.call at_ args).2.machine.transcript.printed.Is (P ++ text)) :
      Told p l (s.call at_ args).2 (ended (T ++ text))

theorem call_machine (s : Session) (at_ : Nat) (args : List Value) :
    (s.call at_ args).2 = { s with machine := last (callBody at_ args s.limits s.machine) } := by
  unfold Session.call
  cases callBody at_ args s.limits s.machine with
  | _ => rfl

theorem told_limits (told : Told p l s T) : s.limits = l := by
  induction told with
  | started ran => exact (start_ran ran).1
  | fed _ _ ih => exact ih
  | called _ _ at_ args _ _ ih =>
    rw [call_machine]
    exact ih

-- A call adds to the transcript, and then ends the line that is open.
theorem call_transcript (ample : l.time = .ample) (limits : s.limits = l) (at_ : Nat)
    (args : List Value) :
    ∃ t, Continues l s.machine.transcript t ∧
      (s.call at_ args).2.machine.transcript = t.flush l := by
  have continues := prints_composed (l := l)
    (composed_callFunction maxRunDepth at_ ⟨args, []⟩) s.machine
  refine ⟨_, continues, ?_⟩
  rw [call_machine, limits]
  change (last ((checkTime >>= fun _ => flushed (rules.callFunction at_ ⟨args, []⟩)) l
    s.machine)).transcript = _
  rw [run_bind, run_checkTime, ample]
  exact last_flushed _ s.machine

theorem composed_runModule (p : Script.Program) : Composed (.free True) (runModule p) :=
  composed_block maxRunDepth moduleScope p.body

theorem start_transcript (ran : start p l = .ok s) : Continues l {} s.machine.transcript := by
  have continues := prints_composed (l := l) (composed_runModule p) {}
  obtain ⟨-, flow, ended⟩ := start_ran ran
  rw [ended] at continues
  exact continues

theorem told_keeps {Q : String → Transcript → Prop} (kept : Kept l Q) (told : Told p l s T) :
    Q T s.machine.transcript := by
  induction told with
  | started ran printed =>
    obtain ⟨text, prints, keeps⟩ := (start_transcript ran).keeps kept
    rw [Ghost.is_unique printed (prints "" rfl)]
    exact keeps "" kept.initial
  | fed _ _ ih => exact ih
  | @called s T P text prior ample at_ args before after ih =>
    obtain ⟨t, continues, ends⟩ := call_transcript ample (told_limits prior) at_ args
    obtain ⟨more, prints, keeps⟩ := continues.keeps kept
    rw [ends] at after ⊢
    rw [printed_flush] at after
    have same : P ++ text = P ++ more := Ghost.is_unique after (prints P before)
    rw [(String.append_right_inj P).mp same]
    exact kept.flush (keeps T ih)

theorem told_shows (positive : 0 < l.maxLineLength) (room : 0 ≤ l.maxOutputLines)
    (told : Told p l s T) : Shows l T s.machine.transcript :=
  told_keeps (kept_shows positive room) told

-- All lines are ended at the end of a call.
theorem ended_opened (T : String) : opened (ended T).toList = [] := by
  by_cases none : opened T.toList = []
  · rw [ended, if_pos none, none]
  · exact (ended_parts none).2

-- What a call prints is what it adds to what was printed.
theorem call_told (told : Told p l s T) (ample : l.time = .ample)
    (is : s.machine.transcript.printed.Is P) (at_ : Nat) (args : List Value) :
    ∃ text, (s.call at_ args).2.machine.transcript.printed.Is (P ++ text) ∧
      Told p l (s.call at_ args).2 (ended (T ++ text)) := by
  obtain ⟨t, continues, ends⟩ := call_transcript ample (told_limits told) at_ args
  obtain ⟨text, prints, -⟩ := continues.keeps (kept_any l)
  have printed : (s.call at_ args).2.machine.transcript.printed.Is (P ++ text) := by
    rw [ends, printed_flush]
    exact prints P is
  exact ⟨text, printed, .called told ample at_ args is printed⟩

theorem call_shown (positive : 0 < l.maxLineLength) (room : 0 ≤ l.maxOutputLines)
    (told : Told p l s T) (ample : l.time = .ample) (is : s.machine.transcript.printed.Is P)
    (at_ : Nat) (args : List Value) :
    ∃ text, (s.call at_ args).2.machine.transcript.printed.Is (P ++ text) ∧
      Told p l (s.call at_ args).2 (ended (T ++ text)) ∧
      (s.call at_ args).2.machine.transcript.lines.toList = firstLines l (ended (T ++ text)) ∧
      (s.call at_ args).2.machine.transcript.pending = "" := by
  obtain ⟨text, printed, told'⟩ := call_told told ample is at_ args
  refine ⟨text, printed, told', (told_shows positive room told').lines, ?_⟩
  obtain ⟨t, -, ends⟩ := call_transcript ample (told_limits told) at_ args
  rw [ends]
  exact pending_flush l t

-- A session has printed what its print calls printed, and each call has ended the line that it left
-- open. Of that the first lines are kept, cut to their length, and nothing waits when a call is over.
theorem calls_shown (p : Script.Program) (l : Limits) (positive : 1 ≤ l.maxLineLength)
    (room : 0 ≤ l.maxOutputLines) :
    (∀ s, start p l = .ok s → ∃ T, Told p l s T ∧ s.machine.transcript.printed.Is T) ∧
      (∀ s T, Told p l s T → s.machine.transcript.lines.toList = firstLines l T) ∧
      (∀ s T P at_ args, Told p l s T → l.time = .ample → s.machine.transcript.printed.Is P →
        ∃ text, (s.call at_ args).2.machine.transcript.printed.Is (P ++ text) ∧
          Told p l (s.call at_ args).2 (ended (T ++ text)) ∧
          (s.call at_ args).2.machine.transcript.lines.toList = firstLines l (ended (T ++ text)) ∧
          (s.call at_ args).2.machine.transcript.pending = "") ∧
      (∀ T, opened (ended T).toList = []) ∧
      (∀ args m v m' P, m.transcript.printed.Is P → printValues args l m = .ok v m' →
        (∃ text, Tells m.heap l args text ∧ m'.transcript = m.transcript.print l text ∧
            m'.transcript.printed.Is (P ++ text)) ∨
          (m.transcript.isFull l ∧ m'.transcript.lines = m.transcript.lines ∧
            m'.transcript.printed.Is P)) ∧
      ∀ args m e m', printValues args l m = .error e m' → m' = m := by
  refine ⟨?_, ?_, ?_, ended_opened, ?_, ?_⟩
  · intro s ran
    obtain ⟨T, only⟩ := s.machine.transcript.printed.single
    have is := (only T).mpr rfl
    exact ⟨T, .started ran is, is⟩
  · intro s T told
    exact (told_shows positive room told).lines
  · intro s T P at_ args told ample is
    exact call_shown positive room told ample is at_ args
  · intro args m v m' P is ran
    obtain ⟨text, tells, rfl⟩ | ⟨full, rfl⟩ := printValues_ok ran
    · exact .inl ⟨text, tells, rfl, printed_print is text⟩
    · exact .inr ⟨full, rfl, is⟩
  · intro args m e m' failed
    exact printValues_error failed

-- A module that leaves a line open, and a function that goes on with it.
def openLine : Script.Program :=
  ⟨[.expr (.call (.name "print" 1) [.const (.text "a\nbcd")] [.named "end" (.const (.text ""))] 1),
    .funcDef "go" [] []
      [.expr (.call (.name "print" 3) [.const (.text "x")] [.named "end" (.const (.text ""))] 3)]
      true false 2], rfl⟩

def narrow : Limits := { maxOutputLines := 3, maxLineLength := 2 }

example : firstLines narrow "a\nbcdx\n" = ["a", "bc"] := by decide

def linesAfter (p : Script.Program) (l : Limits) (at_ : Nat) : Option (List String) :=
  (start p l).toOption.map fun s => (s.call at_ []).2.machine.transcript.lines.toList

theorem openLine_shown :
    ∃ s T text, start openLine narrow = .ok s ∧ Told openLine narrow s T ∧
      (s.call 0 []).2.machine.transcript.lines.toList = ["a", "bc"] ∧
      firstLines narrow (ended (T ++ text)) = ["a", "bc"] ∧
      (s.call 0 []).2.machine.transcript.pending = "" := by
  have lines : linesAfter openLine narrow 0 = some ["a", "bc"] := by decide +kernel
  obtain ⟨starts, _, calls, _⟩ := calls_shown openLine narrow (by decide) (by decide)
  unfold linesAfter at lines
  cases started : start openLine narrow with
  | error e =>
    rw [started] at lines
    cases lines
  | ok s =>
    rw [started] at lines
    obtain ⟨T, told, is⟩ := starts s started
    obtain ⟨text, _, _, shown, none⟩ := calls s T T 0 [] told rfl is
    have kept := Option.some.inj lines
    exact ⟨s, T, text, rfl, told, kept, shown.symm.trans kept, none⟩

end Session
end ScriptArena
