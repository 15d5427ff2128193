import ScriptArena.Proofs.Run.Evaluation
import ScriptArena.Proofs.Run.Operations
import ScriptArena.Run.Session

namespace ScriptArena

namespace Transcript

variable {l l' : Limits} {t : Transcript}

-- Nothing makes up for a part that was lost.
theorem whole_write (line : String) (whole : (t.write l line).truncated = false) :
    t.truncated = false := by
  unfold write at whole
  split at whole
  · cases whole
  · split at whole
    · cases whole
    · exact whole

theorem whole_hold (line : String) (whole : (t.hold l line).truncated = false) :
    t.truncated = false := by
  unfold hold at whole
  split at whole
  · cases whole
  · exact whole

theorem whole_writes (lines : List String)
    (whole : (lines.foldl (write l) t).truncated = false) : t.truncated = false := by
  induction lines generalizing t with
  | nil => exact whole
  | cons line rest ih => exact whole_write line (ih whole)

theorem whole_add (text : String) (whole : (t.add l text).truncated = false) :
    t.truncated = false := by
  unfold add at whole
  split at whole
  · cases whole
  · exact whole_writes _ (whole_hold _ whole)

theorem whole_print (text : String) (whole : (t.print l text).truncated = false) :
    t.truncated = false :=
  whole_add (t := { t with printed := t.printed.map (· ++ text) }) text whole

theorem whole_flush (whole : (t.flush l).truncated = false) : t.truncated = false := by
  unfold flush at whole
  split at whole
  · exact whole
  · exact whole_write _ whole

section
variable (looser : l.Looser l')
include looser

theorem isFull_looser (room : t.isFull l = false) : t.isFull l' = false := by
  have more := looser.maxOutputLines
  simp only [isFull, decide_eq_false_iff_not] at room ⊢
  omega

theorem isLong_looser {line : String} (short : isLong l line = false) : isLong l' line = false := by
  have more := looser.maxLineLength
  simp only [isLong, decide_eq_false_iff_not] at short ⊢
  omega

theorem write_looser (line : String) (whole : (t.write l line).truncated = false) :
    t.write l' line = t.write l line := by
  unfold write at whole ⊢
  cases full : t.isFull l with
  | true => simp [full] at whole
  | false =>
    cases long : isLong l line with
    | true => simp [full, long] at whole
    | false => simp [isFull_looser looser full, isLong_looser looser long]

theorem hold_looser (line : String) (whole : (t.hold l line).truncated = false) :
    t.hold l' line = t.hold l line := by
  unfold hold at whole ⊢
  cases long : isLong l line with
  | true => simp [long] at whole
  | false => simp [isLong_looser looser long]

theorem writes_looser (lines : List String)
    (whole : (lines.foldl (write l) t).truncated = false) :
    lines.foldl (write l') t = lines.foldl (write l) t := by
  induction lines generalizing t with
  | nil => rfl
  | cons line rest ih =>
    rw [List.foldl_cons, List.foldl_cons, write_looser looser line (whole_writes rest whole)]
    exact ih whole

theorem add_looser (text : String) (whole : (t.add l text).truncated = false) :
    t.add l' text = t.add l text := by
  unfold add at whole ⊢
  cases full : t.isFull l with
  | true => simp [full] at whole
  | false =>
    simp only [full, isFull_looser looser full] at whole ⊢
    have lines := writes_looser looser _ (whole_hold _ whole)
    rw [if_neg Bool.false_ne_true, if_neg Bool.false_ne_true, lines]
    exact hold_looser looser _ whole

theorem print_looser (text : String) (whole : (t.print l text).truncated = false) :
    t.print l' text = t.print l text :=
  add_looser looser text whole

theorem flush_looser (whole : (t.flush l).truncated = false) : t.flush l' = t.flush l := by
  unfold flush at whole ⊢
  split at whole
  · rename_i none
    rw [if_pos none, if_pos none]
  · rename_i open_
    rw [if_neg open_, if_neg open_, write_looser looser _ whole]

end
end Transcript

namespace Run

variable {l l' : Limits} {α β σ τ : Type}

-- What a run under `l` that went through says of the run under `l'` from the same machine. The
-- ceiling on steps of `l'` may be lower.
structure Outlook (l l' : Limits) (m : Machine) (a : α) (m' : Machine)
    (other : EStateM.Result Fault Machine α) : Prop where
  counts : m.steps ≤ m'.steps
  allowed : m.steps < m'.steps → m'.steps ≤ l.maxSteps
  whole : m'.transcript.truncated = false → m.transcript.truncated = false
  same : m'.transcript.truncated = false → m.steps = m'.steps ∨ m'.steps ≤ l'.maxSteps →
    other = .ok a m'
  stopped : m'.transcript.truncated = false → m.steps ≤ l'.maxSteps → l'.maxSteps < m'.steps →
    ∃ m'', other = .error (.limit (.steps l'.maxSteps)) m'' ∧ m''.steps = l'.maxSteps + 1

def Follows (l l' : Limits) (x : Run α) : Prop :=
  ∀ m a m', x l m = .ok a m' → Outlook l l' m a m' (x l' m)

-- What counts no step and prints nothing is only asked for the same outcome.
theorem follows_uncounted {x : Run α}
    (same : ∀ m a m', x l m = .ok a m' →
      m'.steps = m.steps ∧ m'.transcript = m.transcript ∧ x l' m = .ok a m') :
    Follows l l' x := by
  intro m a m' ran
  obtain ⟨steps, transcript, other⟩ := same m a m' ran
  exact {
    counts := by omega
    allowed := by omega
    whole := by simp [transcript]
    same := fun _ _ => other
    stopped := by omega }

-- What comes after only matters where the other run gets so far.
theorem Outlook.bind {x : Run α} {f : α → Run β} {m mid m' : Machine} {a : α} {b : β}
    {other : EStateM.Result Fault Machine β} (one : Outlook l l' m a mid (x l' m))
    (two : Outlook l l' mid b m' other)
    (reached : m.steps = mid.steps ∨ mid.steps ≤ l'.maxSteps → f a l' mid = other) :
    Outlook l l' m b m' ((x >>= f) l' m) := by
  have counts := one.counts
  have counts' := two.counts
  have allowed := one.allowed
  have allowed' := two.allowed
  refine ⟨by omega, by omega, fun whole => one.whole (two.whole whole), ?_, ?_⟩
  · intro whole enough
    rw [run_bind, one.same (two.whole whole) (by omega)]
    exact (reached (by omega)).trans (two.same whole (by omega))
  · intro whole before beyond
    rw [run_bind]
    by_cases early : l'.maxSteps < mid.steps
    · obtain ⟨last, stops, count⟩ := one.stopped (two.whole whole) before early
      exact ⟨last, by rw [stops], count⟩
    · rw [one.same (two.whole whole) (by omega)]
      dsimp only
      rw [reached (by omega)]
      exact two.stopped whole (by omega) beyond

theorem follows_step {x : Run α} {f : α → Run β} (first : Follows l l' x)
    (rest : ∀ a, Follows l l' (f a)) : Follows l l' (x >>= f) := by
  intro m b m' ran
  obtain ⟨a, mid, ranFirst, ranRest⟩ := bind_ok ran
  exact (first m a mid ranFirst).bind (rest a mid b m' ranRest) fun _ => rfl

theorem follows_value (a : α) : Follows l l' (pure a) := by
  apply follows_uncounted
  intro m b m' ran
  cases ran
  exact ⟨rfl, rfl, rfl⟩

theorem follows_stop (e : Fault) : Follows l l' (throw e : Run α) := by
  intro m a m' ran
  cases ran

theorem follows_look (f : Heap → α) : Follows l l' (look f) := by
  apply follows_uncounted
  intro m b m' ran
  cases ran
  exact ⟨rfl, rfl, rfl⟩

theorem follows_change (f : Heap → Heap) : Follows l l' (change f) := by
  apply follows_uncounted
  intro m b m' ran
  cases ran
  exact ⟨rfl, rfl, rfl⟩

theorem follows_bind (scope : Nat) (name : String) (v : Value) :
    Follows l l' (Run.bind scope name v) := by
  apply follows_uncounted
  intro m b m' ran
  cases ran
  exact ⟨rfl, rfl, rfl⟩

theorem follows_allocate (f : Heap → α × Heap) : Follows l l' (allocate f) := by
  apply follows_uncounted
  intro m b m' ran
  cases ran
  exact ⟨rfl, rfl, rfl⟩

theorem follows_enter : Follows l l' enter := by
  apply follows_uncounted
  intro m b m' ran
  cases ran
  exact ⟨rfl, rfl, rfl⟩

section
variable (looser : l.Looser l')
include looser

theorem follows_guarded {g : Limits → Heap → Except Trouble α} (eases : Eases g) :
    Follows l l' (guarded g) := by
  apply follows_uncounted
  intro m a m' ran
  rw [run_guarded] at ran ⊢
  cases passed : g l m.heap with
  | error e =>
    rw [passed] at ran
    cases ran
  | ok b =>
    rw [passed] at ran
    cases ran
    rw [eases l l' m.heap a looser passed]
    exact ⟨rfl, rfl, rfl⟩

theorem checkTime_passes {m m' : Machine} {u : Unit} (ran : checkTime l m = .ok u m') :
    m' = m ∧ checkTime l' m = .ok u m' := by
  rw [run_checkTime] at ran ⊢
  cases time : l.time with
  | ample =>
    rw [time] at ran
    cases ran
    rw [looser.time time]
    exact ⟨rfl, rfl⟩
  | spent seconds =>
    rw [time] at ran
    cases ran

theorem follows_checkTime : Follows l l' checkTime := by
  apply follows_uncounted
  intro m u m' ran
  obtain ⟨rfl, other⟩ := checkTime_passes looser ran
  exact ⟨rfl, rfl, other⟩

theorem follows_checkDepth : Follows l l' checkDepth := by
  have deeper := looser.maxCallDepth
  apply follows_uncounted
  intro m u m' ran
  rw [run_checkDepth] at ran ⊢
  split at ran
  · cases ran
  · cases ran
    rw [if_neg (by omega)]
    exact ⟨rfl, rfl, rfl⟩

theorem tick_passes {m m' : Machine} {u : Unit} (ran : tick l m = .ok u m') :
    m' = m.counted ∧ m'.steps ≤ l.maxSteps ∧ (m'.steps ≤ l'.maxSteps → tick l' m = .ok u m') := by
  rw [run_tick] at ran
  split at ran
  · cases ran
  · rename_i allowed
    rw [Int.not_lt] at allowed
    split at ran
    · rename_i looks
      obtain ⟨rfl, other⟩ := checkTime_passes looser ran
      refine ⟨rfl, allowed, fun enough => ?_⟩
      rw [run_tick, if_neg (Int.not_lt.mpr enough), if_pos looks]
      exact other
    · rename_i passes
      cases ran
      refine ⟨rfl, allowed, fun enough => ?_⟩
      rw [run_tick, if_neg (Int.not_lt.mpr enough), if_neg passes]

theorem follows_tick : Follows l l' tick := by
  intro m u m' ran
  obtain ⟨rfl, allowed, other⟩ := tick_passes looser ran
  have count : m.counted.steps = m.steps + 1 := rfl
  refine ⟨by omega, fun _ => allowed, id, ?_, ?_⟩
  · exact fun _ enough => other (by omega)
  · intro _ before beyond
    rw [run_tick, if_pos beyond]
    exact ⟨_, rfl, by omega⟩

theorem follows_emit (made : Made) : Follows l l' (emit made) := by
  intro m u m' ran
  rw [run_emit] at ran ⊢
  split at ran
  · rename_i s
    cases ran
    refine ⟨Nat.le_refl _, by simp, Transcript.whole_print s, ?_, by simp⟩
    intro whole _
    rw [Transcript.print_looser looser s whole]
  · split at ran
    · cases ran
      exact ⟨Nat.le_refl _, by simp, nofun, nofun, nofun⟩
    · cases ran

end

section
variable {probe : σ → Run (τ ⊕ α)} {body : τ → Run (σ ⊕ α)} (looser : l.Looser l')
  (probes : ∀ s, Follows l l' (probe s)) (bodies : ∀ t, Follows l l' (body t))
include looser probes bodies

theorem follows_turn (s : σ) : Follows l l' (turn probe body s) := by
  refine follows_step (probes s) fun next => ?_
  cases next with
  | inr a => exact follows_value _
  | inl t =>
    exact follows_step (follows_tick looser) fun _ => follows_step follows_enter fun _ => bodies t

-- A round that leads to another one has counted a step.
theorem turn_counts {s next : σ} {m m' : Machine}
    (turned : turn probe body s l m = .ok (.inl next) m') : m.steps < m'.steps := by
  obtain ⟨found, mid, probed, rest⟩ := bind_ok turned
  have before := (probes s m found mid probed).counts
  cases found with
  | inr a => cases rest
  | inl t =>
    obtain ⟨u, late, ticked, rest⟩ := bind_ok rest
    have after := (bodies t late.worked _ m' rest).counts
    obtain ⟨rfl, -, -⟩ := tick_passes looser ticked
    have count : mid.counted.worked.steps = mid.steps + 1 := rfl
    omega

-- There is fuel for a round at least, and for as many as there are steps left to the other run.
theorem follows_rounds {fuel fuel' : Nat} {s : σ} {m m' : Machine} {a : α}
    (ran : rounds probe body fuel s l m = .ok a m') (some_ : 0 < fuel')
    (enough : l'.maxSteps - m.steps < fuel') :
    Outlook l l' m a m' (rounds probe body fuel' s l' m) := by
  induction fuel generalizing fuel' s m with
  | zero => cases ran
  | succ fuel ih =>
    obtain ⟨fuel', rfl⟩ := Nat.exists_eq_add_of_lt some_
    rw [Nat.zero_add] at *
    obtain ⟨next, mid, turned, rest⟩ := bind_ok ran
    have one := follows_turn looser probes bodies s m next mid turned
    cases next with
    | inr b => exact one.bind (follows_value b mid a m' rest) fun _ => rfl
    | inl next =>
      have counted := turn_counts looser probes bodies turned
      by_cases reached : mid.steps ≤ l'.maxSteps
      · exact one.bind (ih rest (by omega) (by omega)) fun _ => rfl
      · let ample := (l'.maxSteps - mid.steps).toNat + 1
        have later := @ih ample next mid rest (by omega) (by omega)
        exact one.bind later fun reaches => absurd reaches (by omega)

theorem follows_loop (s : σ) : Follows l l' (loop probe body s) := by
  intro m a m' ran
  rw [run_loop] at ran ⊢
  exact follows_rounds looser probes bodies ran (by omega) (by omega)

end

theorem follows_deeper {x : Run α} (inner : Follows l l' x) : Follows l l' (deeper x) := by
  intro m a m' ran
  unfold deeper at ran ⊢
  split at ran
  · rename_i b mid inside
    cases ran
    have outlook := inner _ _ _ inside
    refine ⟨outlook.counts, outlook.allowed, outlook.whole, ?_, ?_⟩
    · intro whole enough
      rw [outlook.same whole enough]
    · intro whole before beyond
      obtain ⟨last, stops, count⟩ := outlook.stopped whole before beyond
      rw [stops]
      exact ⟨_, rfl, count⟩
  · cases ran

theorem follows_undoing {x : Run α} (undo : Heap → Heap) (inner : Follows l l' x) :
    Follows l l' (undoing undo x) := by
  intro m a m' ran
  unfold undoing at ran ⊢
  split at ran
  · rename_i b mid inside
    cases ran
    have outlook := inner _ _ _ inside
    refine ⟨outlook.counts, outlook.allowed, outlook.whole, ?_, ?_⟩
    · intro whole enough
      rw [outlook.same whole enough]
    · intro whole before beyond
      obtain ⟨last, stops, count⟩ := outlook.stopped whole before beyond
      rw [stops]
      exact ⟨_, rfl, count⟩
  · cases ran

theorem follows_flushed {x : Run α} (looser : l.Looser l') (inner : Follows l l' x) :
    Follows l l' (flushed x) := by
  intro m a m' ran
  unfold flushed at ran ⊢
  split at ran
  · rename_i b mid inside
    cases ran
    have outlook := inner _ _ _ inside
    refine ⟨outlook.counts, outlook.allowed, ?_, ?_, ?_⟩
    · exact fun whole => outlook.whole (Transcript.whole_flush whole)
    · intro whole enough
      rw [outlook.same (Transcript.whole_flush whole) enough]
      simp only [Transcript.flush_looser looser whole]
    · intro whole before beyond
      obtain ⟨last, stops, count⟩ := outlook.stopped (Transcript.whole_flush whole) before beyond
      rw [stops]
      exact ⟨_, rfl, count⟩
  · cases ran

theorem follows_free (looser : l.Looser l') {x : Run α} (composed : Composed (.free True) x) :
    Follows l l' x := by
  induction composed with
  | value a => exact follows_value a
  | step _ _ first rest => exact follows_step first rest
  | stop => exact follows_stop _
  | look f => exact follows_look f
  | inspect _ rest => exact follows_step (follows_look _) fun c => rest c fun _ _ => trivial
  | guarded eases => exact follows_guarded looser eases
  | change => exact follows_change _
  | allocate => exact follows_allocate _
  | define => exact follows_step (follows_allocate _) fun _ => follows_bind _ _ _
  | bind => exact follows_bind _ _ _
  | opened _ _ rests => exact follows_step (follows_allocate _) fun i => rests i trivial
  | tick => exact follows_tick looser
  | enter => exact follows_enter
  | checkTime => exact follows_checkTime looser
  | checkDepth => exact follows_checkDepth looser
  | emit made => exact follows_emit looser made
  | loop s _ _ probes bodies => exact follows_loop looser probes bodies s
  | called _ inner => exact follows_step (follows_checkDepth looser) fun _ => follows_deeper inner
  | undoing _ _ _ inner => exact follows_undoing _ inner

end Run

namespace Session
open Run

-- The module body, what the host does, and the call it asks for, as one run.
def singleRun (p : Script.Program) (host : Heap → (Nat × List Value) × Heap) : Run Value := do
  let _ ← runModule p
  let (at_, args) ← allocate host
  callBody at_ args

theorem single_eq (p : Script.Program) (host : Heap → (Nat × List Value) × Heap) (l : Limits) :
    single p host l = match singleRun p host l {} with
      | .ok v m => (.ok v, m)
      | .error e m => (.error e, m) := by
  unfold single singleRun
  rw [run_bind]
  cases runModule p l {} with
  | error e m => rfl
  | ok flow m =>
    rcases asked : host m.heap with ⟨⟨at_, args⟩, heap⟩
    dsimp only
    rw [run_bind, run_allocate, asked]
    dsimp only [Session.call]
    cases callBody at_ args l { m with heap := heap } with
    | ok v m => rfl
    | error e m => rfl

theorem follows_singleRun {l l' : Limits} (looser : l.Looser l') (p : Script.Program)
    (host : Heap → (Nat × List Value) × Heap) : Follows l l' (singleRun p host) := by
  refine follows_step ?_ fun _ => follows_step (follows_allocate host) fun asked => ?_
  · exact follows_free looser (composed_block maxRunDepth moduleScope p.body)
  · refine follows_step (follows_checkTime looser) fun _ => follows_flushed looser ?_
    exact follows_free looser (composed_callFunction maxRunDepth _ _)

-- A start and a call that go through, and lose no line, do the same under higher ceilings. With
-- fewer steps than they take they are stopped by the ceiling on steps, at the first step beyond it.
theorem ceilings_only_guard (p : Script.Program) (host : Heap → (Nat × List Value) × Heap)
    (l : Limits) (v : Value) (m : Machine)
    (ran : single p host l = (.ok v, m)) (whole : m.transcript.truncated = false) :
    (∀ l' : Limits, l.Within l' → l'.time = .ample → single p host l' = (.ok v, m)) ∧
      ∀ steps : Int, 0 ≤ steps → steps < m.steps →
        ∃ last, single p host { l with maxSteps := steps } = (.error (.limit (.steps steps)), last) ∧
          last.steps = steps + 1 := by
  have run : singleRun p host l {} = .ok v m := by
    rw [single_eq] at ran
    cases run : singleRun p host l {} with
    | ok v' m' =>
      rw [run] at ran
      cases ran
      rfl
    | error e m' =>
      rw [run] at ran
      cases ran
  constructor
  · intro l' within ample'
    have looser : l.Looser l' := {
      time := fun _ => ample'
      maxCallDepth := within.maxCallDepth
      maxOutputLines := within.maxOutputLines
      maxLineLength := within.maxLineLength
      maxSequenceLength := within.maxSequenceLength
      maxExponent := within.maxExponent
      maxIntBits := within.maxIntBits
      order := within.order }
    have outlook := follows_singleRun looser p host {} v m run
    have same := outlook.same whole ?_
    · rw [single_eq, same]
    · have allowed := outlook.allowed
      have more := within.maxSteps
      have none : ({} : Machine).steps = 0 := rfl
      omega
  · intro steps positive fewer
    have looser : l.Looser { l with maxSteps := steps } := {
      time := id
      maxCallDepth := Int.le_refl _
      maxOutputLines := Int.le_refl _
      maxLineLength := Int.le_refl _
      maxSequenceLength := Int.le_refl _
      maxExponent := Int.le_refl _
      maxIntBits := Int.le_refl _
      order := rfl }
    have outlook := follows_singleRun looser p host {} v m run
    obtain ⟨last, stops, count⟩ := outlook.stopped whole positive fewer
    exact ⟨last, by rw [single_eq, stops], count⟩

-- A function that prints the items of its argument. Over two of them it takes seven steps.
def listing : Script.Program :=
  ⟨[.funcDef "list" ["items"] []
    [.forLoop (.name "item" 2) (.name "items" 2)
      [.expr (.call (.name "print" 3) [.name "item" 3] [] 3)] [],
    .giveBack (some (.name "items" 4)) 4] true false 1], rfl⟩

def twoItems (h : Heap) : (Nat × List Value) × Heap :=
  let (v, h) := h.own (.tuple none [.str "a", .str "b"])
  ((0, [v]), h)

def justEnough : Limits := { maxSteps := 7, maxOutputLines := 2, maxLineLength := 1 }

theorem listing_guarded :
    (∃ v, (single listing twoItems justEnough).1 = .ok v) ∧
      (single listing twoItems justEnough).2.transcript.truncated = false ∧
      single listing twoItems {} = single listing twoItems justEnough ∧
      ∃ last, single listing twoItems { justEnough with maxSteps := 3 } =
        (.error (.limit (.steps 3)), last) ∧ last.steps = 4 := by
  have returns : (single listing twoItems justEnough).1.isOk = true := by decide +kernel
  have steps : (single listing twoItems justEnough).2.steps = 7 := by decide +kernel
  have whole : (single listing twoItems justEnough).2.transcript.truncated = false := by
    decide +kernel
  have within : justEnough.Within {} := by refine ⟨?_, ?_, ?_, ?_, ?_, ?_, ?_, rfl⟩ <;> decide
  cases result : single listing twoItems justEnough with
  | mk outcome m =>
    rw [result] at returns steps whole
    dsimp only at returns steps whole
    cases outcome with
    | error e => cases returns
    | ok v =>
      have guarded := ceilings_only_guard listing twoItems justEnough v m result whole
      have fewer : (3 : Int) < m.steps := by omega
      obtain ⟨last, stopped, count⟩ := guarded.2 3 (by decide) fewer
      exact ⟨⟨v, rfl⟩, whole, guarded.1 {} within rfl, last, stopped, by omega⟩

end Session
end ScriptArena
