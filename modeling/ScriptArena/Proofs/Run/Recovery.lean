import ScriptArena.Proofs.Run.Printing

namespace ScriptArena

namespace Transcript

variable {l : Limits} {t : Transcript}

-- Lines that are kept stay.
theorem write_keeps (line : String) : t.lines.toList <+: (t.write l line).lines.toList := by
  unfold write
  split
  · exact List.prefix_rfl
  · split
    · exact Array.toList_push ▸ List.prefix_append _ _
    · exact Array.toList_push ▸ List.prefix_append _ _

theorem writes_keep (lines : List String) :
    t.lines.toList <+: (lines.foldl (write l) t).lines.toList := by
  induction lines generalizing t with
  | nil => exact List.prefix_rfl
  | cons line rest ih => exact (write_keeps line).trans ih

theorem hold_lines (line : String) : (t.hold l line).lines = t.lines := by
  unfold hold
  split
  · rfl
  · rfl

theorem add_keeps (text : String) : t.lines.toList <+: (t.add l text).lines.toList := by
  unfold add
  split
  · exact List.prefix_rfl
  · dsimp only
    rw [hold_lines]
    exact writes_keep _

theorem flush_keeps : t.lines.toList <+: (t.flush l).lines.toList := by
  unfold flush
  split
  · exact List.prefix_rfl
  · exact write_keeps _

theorem Continues.lines {t' : Transcript} (continues : Continues l t t') :
    t.lines.toList <+: t'.lines.toList := by
  induction continues with
  | refl => exact List.prefix_rfl
  | @text t' _ s ih =>
    exact ih.trans (add_keeps (t := { t' with printed := t'.printed.map (· ++ s) }) s)
  | bytes _ _ ih => exact ih

end Transcript

namespace Run

variable {α β σ τ : Type} {l : Limits}

-- How a computation leaves the depth, whatever it ends with. Calls are refused only when as many are
-- open as are allowed.
structure Balanced (l : Limits) (m : Machine) (r : EStateM.Result Fault Machine α) : Prop where
  depth : (last r).depth = m.depth
  steps : m.steps ≤ (last r).steps
  deepest : m.deepest ≤ (last r).deepest
  allowed : (last r).deepest ≤ max m.deepest l.maxCallDepth.toNat
  refused : ∀ n m', r = .error (.limit (.depth n)) m' →
    n = l.maxCallDepth ∧ (m.depth ≤ m.deepest → l.maxCallDepth ≤ m'.deepest)

def Balances (l : Limits) (x : Run α) : Prop := ∀ m, Balanced l m (x l m)

-- The depth is not touched, and no call is refused.
theorem balanced_level {m : Machine} {r : EStateM.Result Fault Machine α}
    (depth : (last r).depth = m.depth) (steps : m.steps ≤ (last r).steps)
    (deepest : (last r).deepest = m.deepest) (calm : ∀ n m', r ≠ .error (.limit (.depth n)) m') :
    Balanced l m r where
  depth := depth
  steps := steps
  deepest := Nat.le_of_eq deepest.symm
  allowed := deepest ▸ Nat.le_max_left _ _
  refused n m' failed := absurd failed (calm n m')

theorem balanced_ok {m m' : Machine} {a : α} (depth : m'.depth = m.depth) (steps : m.steps ≤ m'.steps)
    (deepest : m'.deepest = m.deepest) : Balanced l m (.ok a m') :=
  balanced_level depth steps deepest fun _ _ failed => by cases failed

theorem balanced_error {m m' : Machine} {e : Fault} (depth : m'.depth = m.depth)
    (steps : m.steps ≤ m'.steps) (deepest : m'.deepest = m.deepest)
    (calm : ∀ n, e ≠ .limit (.depth n)) :
    Balanced l m (.error e m' : EStateM.Result Fault Machine α) :=
  balanced_level depth steps deepest fun n _ failed => by
    cases failed
    exact calm n rfl

theorem balanced_refused {m : Machine} (full : l.maxCallDepth ≤ m.depth) :
    Balanced l m (.error (.limit (.depth l.maxCallDepth)) m : EStateM.Result Fault Machine α) := by
  refine ⟨rfl, Nat.le_refl _, Nat.le_refl _, Nat.le_max_left _ _, fun n m' failed => ?_⟩
  cases failed
  refine ⟨rfl, fun level => ?_⟩
  omega

theorem stops_depth {e : Fault} (may : (Licence.free True).Stops e) (n : Int) :
    e ≠ .limit (.depth n) := by
  rintro rfl
  exact may

theorem balances_step {x : Run α} {f : α → Run β} (first : Balances l x)
    (rest : ∀ a, Balances l (f a)) : Balances l (x >>= f) := by
  intro m
  have one := first m
  rw [run_bind]
  cases ended : x l m with
  | error e mid =>
    rw [ended] at one
    refine ⟨one.depth, one.steps, one.deepest, one.allowed, fun n m' failed => ?_⟩
    cases failed
    exact one.refused n mid rfl
  | ok a mid =>
    rw [ended] at one
    have two := rest a mid
    refine ⟨two.depth.trans one.depth, Nat.le_trans one.steps two.steps,
      Nat.le_trans one.deepest two.deepest, ?_, fun n m' failed => ?_⟩
    · have before := one.allowed
      have after := two.allowed
      change mid.deepest ≤ _ at before
      dsimp only
      omega
    · obtain ⟨same, reached⟩ := two.refused n m' failed
      refine ⟨same, fun level => reached ?_⟩
      have depth : mid.depth = m.depth := one.depth
      have deepest : m.deepest ≤ mid.deepest := one.deepest
      omega

theorem balances_guarded (g : Limits → Heap → Except Trouble α) : Balances l (guarded g) := by
  intro m
  rw [run_guarded]
  cases g l m.heap with
  | ok a => exact balanced_ok rfl (Nat.le_refl _) rfl
  | error e => exact balanced_error rfl (Nat.le_refl _) rfl (stops_depth (stops_trouble e))

theorem balances_checkTime : Balances l checkTime := by
  intro m
  rw [run_checkTime]
  cases l.time with
  | ample => exact balanced_ok rfl (Nat.le_refl _) rfl
  | spent seconds => exact balanced_error rfl (Nat.le_refl _) rfl fun n => by simp

theorem balances_checkDepth : Balances l checkDepth := by
  intro m
  rw [run_checkDepth]
  split
  · rename_i full
    exact balanced_refused full
  · exact balanced_ok rfl (Nat.le_refl _) rfl

theorem balances_tick : Balances l tick := by
  intro m
  rw [run_tick]
  have counts : m.steps ≤ m.counted.steps := Nat.le_succ _
  split
  · exact balanced_error rfl counts rfl fun n => by simp
  · split
    · have checked := balances_checkTime (l := l) m.counted
      exact ⟨checked.depth, Nat.le_trans counts checked.steps, checked.deepest, checked.allowed,
        checked.refused⟩
    · exact balanced_ok rfl counts rfl

theorem balances_emit (made : Made) : Balances l (emit made) := by
  intro m
  rw [run_emit]
  split
  · exact balanced_ok rfl (Nat.le_refl _) rfl
  · split
    · exact balanced_ok rfl (Nat.le_refl _) rfl
    · exact balanced_error rfl (Nat.le_refl _) rfl fun n => by simp

theorem balances_loop {probe : σ → Run (τ ⊕ α)} {body : τ → Run (σ ⊕ α)}
    (probes : ∀ s, Balances l (probe s)) (bodies : ∀ r, Balances l (body r)) (s : σ) :
    Balances l (loop probe body s) :=
  loop_keeps (P := fun _ x => Balances l x) (fun _ _ _ => balanced_ok rfl (Nat.le_refl _) rfl)
    balances_step balances_tick (fun _ => balanced_ok rfl (Nat.le_refl _) rfl)
    (fun _ => balanced_ok rfl (Nat.le_refl _) rfl)
    (fun _ _ => balanced_error rfl (Nat.le_refl _) rfl fun n => by simp) probes bodies s

-- One call deeper, and back again.
theorem balances_called {x : Run α} (inner : Balances l x) :
    Balances l (checkDepth >>= fun _ => deeper x) := by
  intro m
  rw [run_called]
  split
  · rename_i full
    exact balanced_refused full
  · rename_i room
    have inside := inner m.deepened
    have level : m.deepened.depth ≤ m.deepened.deepest := Nat.le_max_right _ _
    have before : m.deepest ≤ m.deepened.deepest := Nat.le_max_left _ _
    have within : m.deepened.deepest ≤ max m.deepest l.maxCallDepth.toNat := by
      change max m.deepest (m.depth + 1) ≤ _
      omega
    have allowed := Nat.le_trans inside.allowed (Nat.max_le.mpr ⟨within, Nat.le_max_right _ _⟩)
    have deepest := Nat.le_trans before inside.deepest
    cases ended : x l m.deepened with
    | ok a m' =>
      rw [ended] at inside allowed deepest
      exact ⟨Nat.sub_eq_of_eq_add inside.depth, inside.steps, deepest, allowed, fun _ _ failed => by
        cases failed⟩
    | error e m' =>
      rw [ended] at inside allowed deepest
      refine ⟨Nat.sub_eq_of_eq_add inside.depth, inside.steps, deepest, allowed,
        fun n m'' failed => ?_⟩
      cases failed
      obtain ⟨same, reached⟩ := inside.refused n m' rfl
      exact ⟨same, fun _ => reached level⟩

-- An ending that leaves what is counted as it is.
theorem Balanced.leaving {m : Machine} {r : EStateM.Result Fault Machine α}
    {given stopped : Machine → Machine} (balanced : Balanced l m r)
    (gave : ∀ m, (given m).depth = m.depth ∧ (given m).steps = m.steps ∧
      (given m).deepest = m.deepest)
    (stops : ∀ m, (stopped m).depth = m.depth ∧ (stopped m).steps = m.steps ∧
      (stopped m).deepest = m.deepest) : Balanced l m (leaving given stopped r) := by
  cases r with
  | ok a m' =>
    obtain ⟨depth, steps, deepest⟩ := gave m'
    refine ⟨depth.trans balanced.depth, Nat.le_trans balanced.steps (Nat.le_of_eq steps.symm),
      Nat.le_trans balanced.deepest (Nat.le_of_eq deepest.symm),
      Nat.le_trans (Nat.le_of_eq deepest) balanced.allowed, fun n m'' failed => by cases failed⟩
  | error e m' =>
    obtain ⟨depth, steps, deepest⟩ := stops m'
    refine ⟨depth.trans balanced.depth, Nat.le_trans balanced.steps (Nat.le_of_eq steps.symm),
      Nat.le_trans balanced.deepest (Nat.le_of_eq deepest.symm),
      Nat.le_trans (Nat.le_of_eq deepest) balanced.allowed, fun n m'' failed => ?_⟩
    cases failed
    obtain ⟨same, reached⟩ := balanced.refused n m' rfl
    exact ⟨same, fun level => deepest ▸ reached level⟩

theorem balances_undoing {x : Run α} {undo : Heap → Heap} (inner : Balances l x) :
    Balances l (undoing undo x) := by
  intro m
  rw [run_undoing]
  exact (inner m).leaving (fun _ => ⟨rfl, rfl, rfl⟩) fun _ => ⟨rfl, rfl, rfl⟩

theorem balances_flushed {x : Run α} (inner : Balances l x) : Balances l (flushed x) := by
  intro m
  rw [run_flushed]
  exact (inner m).leaving (fun _ => ⟨rfl, rfl, rfl⟩) fun _ => ⟨rfl, rfl, rfl⟩

theorem balances_composed {x : Run α} (composed : Composed (.free True) x) : Balances l x := by
  induction composed with
  | value | look | change | allocate | define | bind | enter =>
    exact fun _ => balanced_ok rfl (Nat.le_refl _) rfl
  | stop may => exact fun _ => balanced_error rfl (Nat.le_refl _) rfl (stops_depth may)
  | step _ _ first rest => exact balances_step first rest
  | inspect _ rest =>
    refine balances_step (fun _ => ?_) fun c => rest c fun _ _ => trivial
    exact balanced_ok rfl (Nat.le_refl _) rfl
  | guarded => exact balances_guarded _
  | opened _ _ rests =>
    refine balances_step (fun _ => ?_) fun i => rests i trivial
    exact balanced_ok rfl (Nat.le_refl _) rfl
  | tick => exact balances_tick
  | checkTime => exact balances_checkTime
  | checkDepth => exact balances_checkDepth
  | emit made => exact balances_emit made
  | loop s _ _ probes bodies => exact balances_loop probes bodies s
  | called _ inner => exact balances_called inner
  | undoing _ _ _ inner => exact balances_undoing inner

def gauge (d : Nat) (m : Machine) : Machine := { m with deepest := d }

-- What was said of the depth before has no part in what a computation does.
def Blind (l : Limits) (x : Run α) : Prop :=
  ∀ m d, ∃ d', x l (gauge d m) = leaving (gauge d') (gauge d') (x l m)

theorem blind_step {x : Run α} {f : α → Run β} (first : Blind l x) (rest : ∀ a, Blind l (f a)) :
    Blind l (x >>= f) := by
  intro m d
  obtain ⟨d', same⟩ := first m d
  rw [run_bind, run_bind, same]
  cases x l m with
  | error e mid => exact ⟨d', rfl⟩
  | ok a mid => exact rest a mid d'

theorem blind_guarded (g : Limits → Heap → Except Trouble α) : Blind l (guarded g) := by
  intro m d
  refine ⟨d, ?_⟩
  have heap : (gauge d m).heap = m.heap := rfl
  rw [run_guarded, run_guarded, heap]
  cases g l m.heap with
  | _ => rfl

theorem blind_checkTime : Blind l checkTime := by
  intro m d
  refine ⟨d, ?_⟩
  rw [run_checkTime, run_checkTime]
  cases l.time with
  | _ => rfl

theorem blind_checkDepth : Blind l checkDepth := by
  intro m d
  refine ⟨d, ?_⟩
  rw [run_checkDepth, run_checkDepth]
  change (if l.maxCallDepth ≤ m.depth then _ else _) = _
  split
  · rfl
  · rfl

theorem blind_tick : Blind l tick := by
  intro m d
  rw [run_tick, run_tick]
  change ∃ d', (if l.maxSteps < m.counted.steps then _
    else if m.counted.steps % 1000 = 0 then checkTime l (gauge d m.counted)
    else .ok () (gauge d m.counted)) = _
  split
  · exact ⟨d, rfl⟩
  · split
    · exact blind_checkTime m.counted d
    · exact ⟨d, rfl⟩

theorem blind_emit (made : Made) : Blind l (emit made) := by
  intro m d
  refine ⟨d, ?_⟩
  have transcript : (gauge d m).transcript = m.transcript := rfl
  rw [run_emit, run_emit, transcript]
  split
  · rfl
  · dsimp only
    split
    · rfl
    · rfl

theorem blind_loop {probe : σ → Run (τ ⊕ α)} {body : τ → Run (σ ⊕ α)}
    (probes : ∀ s, Blind l (probe s)) (bodies : ∀ r, Blind l (body r)) (s : σ) :
    Blind l (loop probe body s) :=
  loop_keeps (P := fun _ x => Blind l x) (fun _ _ _ d => ⟨d, rfl⟩) blind_step blind_tick
    (fun _ d => ⟨d, rfl⟩) (fun _ d => ⟨d, rfl⟩) (fun _ _ d => ⟨d, rfl⟩) probes bodies s

theorem blind_called {x : Run α} (inner : Blind l x) :
    Blind l (checkDepth >>= fun _ => deeper x) := by
  intro m d
  rw [run_called, run_called]
  change ∃ d', (if l.maxCallDepth ≤ m.depth then _
    else leaving _ _ (x l (gauge (max d (m.depth + 1)) m.deepened))) = _
  split
  · exact ⟨d, rfl⟩
  · obtain ⟨d', same⟩ := inner m.deepened (max d (m.depth + 1))
    refine ⟨d', ?_⟩
    rw [same]
    cases x l m.deepened with
    | _ => rfl

theorem blind_undoing {x : Run α} {undo : Heap → Heap} (inner : Blind l x) :
    Blind l (undoing undo x) := by
  intro m d
  obtain ⟨d', same⟩ := inner m d
  refine ⟨d', ?_⟩
  rw [run_undoing, run_undoing, same]
  cases x l m with
  | _ => rfl

theorem blind_flushed {x : Run α} (inner : Blind l x) : Blind l (flushed x) := by
  intro m d
  obtain ⟨d', same⟩ := inner m d
  refine ⟨d', ?_⟩
  rw [run_flushed, run_flushed, same]
  cases x l m with
  | _ => rfl

theorem blind_composed {x : Run α} (composed : Composed (.free True) x) : Blind l x := by
  induction composed with
  | value | stop | look | change | allocate | define | bind | enter => exact fun _ d => ⟨d, rfl⟩
  | step _ _ first rest => exact blind_step first rest
  | inspect _ rest => exact blind_step (fun _ d => ⟨d, rfl⟩) fun c => rest c fun _ _ => trivial
  | guarded => exact blind_guarded _
  | opened _ _ rests => exact blind_step (fun _ d => ⟨d, rfl⟩) fun i => rests i trivial
  | tick => exact blind_tick
  | checkTime => exact blind_checkTime
  | checkDepth => exact blind_checkDepth
  | emit made => exact blind_emit made
  | loop s _ _ probes bodies => exact blind_loop probes bodies s
  | called _ inner => exact blind_called inner
  | undoing _ _ _ inner => exact blind_undoing inner

end Run

namespace Session
open Run Transcript

variable {p : Script.Program} {l : Limits} {m : Machine}

-- What is left of a call once it has looked at the time.
def invoke (at_ : Nat) (args : List Value) : Run Value := flushed (rules.callFunction at_ ⟨args, []⟩)

-- A session between calls that each passed the look at the time, and then ended somehow. The time may
-- have run out while a call was open.
inductive Used (p : Script.Program) (l : Limits) : Machine → Prop where
  | started {time : TimeBudget} {flow : Flow} {m : Machine}
      (ran : runModule p { l with time := time } {} = .ok flow m) : Used p l m
  | fed {m : Machine} (prior : Used p l m) (h : Heap) : Used p l { m with heap := h }
  | called {m : Machine} (prior : Used p l m) (time : TimeBudget) (at_ : Nat) (args : List Value) :
      Used p l (last (invoke at_ args { l with time := time } m))

theorem balances_invoke (at_ : Nat) (args : List Value) : Balances l (invoke at_ args) :=
  balances_flushed (balances_composed (composed_callFunction _ _ _))

theorem used_level (used : Used p l m) : m.depth = 0 ∧ m.deepest ≤ l.maxCallDepth.toNat := by
  induction used with
  | @started time flow m ran =>
    have balanced := balances_composed (l := { l with time := time }) (composed_runModule p) {}
    rw [ran] at balanced
    have within : m.deepest ≤ max 0 l.maxCallDepth.toNat := balanced.allowed
    exact ⟨balanced.depth, by omega⟩
  | fed _ _ ih => exact ih
  | @called m _ time at_ args ih =>
    obtain ⟨level, within⟩ := ih
    have balanced := balances_invoke (l := { l with time := time }) at_ args m
    have allowed : max m.deepest l.maxCallDepth.toNat ≤ l.maxCallDepth.toNat :=
      Nat.max_le.mpr ⟨within, Nat.le_refl _⟩
    exact ⟨balanced.depth.trans level, Nat.le_trans balanced.allowed allowed⟩

theorem invoke_transcript (at_ : Nat) (args : List Value) (m : Machine) :
    ∃ t, Continues l m.transcript t ∧ (last (invoke at_ args l m)).transcript = t.flush l :=
  ⟨_, prints_composed (composed_callFunction _ _ _) m, last_flushed _ m⟩

-- With nothing said of the depth before, what a call says of it is its own.
theorem invoke_alone {at_ : Nat} {args : List Value} {n : Int} {m' : Machine} (level : m.depth = 0)
    (failed : invoke at_ args l m = .error (.limit (.depth n)) m') :
    n = l.maxCallDepth ∧ ∃ m'', invoke at_ args l (gauge 0 m) = .error (.limit (.depth n)) m'' ∧
      m''.deepest = l.maxCallDepth.toNat := by
  have blind : Blind l (invoke at_ args) := blind_flushed (blind_composed (composed_callFunction _ _ _))
  obtain ⟨d', same⟩ := blind m 0
  have balanced := balances_invoke (l := l) at_ args (gauge 0 m)
  rw [failed] at same
  obtain ⟨exactly, reached⟩ := balanced.refused n _ same
  rw [same] at balanced
  have allowed : d' ≤ max 0 l.maxCallDepth.toNat := balanced.allowed
  have reached : l.maxCallDepth ≤ d' := reached (Nat.le_of_eq level)
  refine ⟨exactly, _, same, ?_⟩
  change d' = _
  omega

-- What a call has changed of a session that is not called.
structure Recovered (l : Limits) (m m' : Machine) : Prop where
  depth : m'.depth = 0
  pending : m'.transcript.pending = ""
  steps : m.steps ≤ m'.steps
  lines : m.transcript.lines.toList <+: m'.transcript.lines.toList
  deepest : m'.deepest ≤ l.maxCallDepth.toNat

theorem invoke_recovered (used : Used p l m) (time : TimeBudget) (at_ : Nat) (args : List Value) :
    Recovered l m (last (invoke at_ args { l with time := time } m)) := by
  obtain ⟨depth, deepest⟩ := used_level (.called used time at_ args)
  obtain ⟨t, continues, ends⟩ := invoke_transcript (l := { l with time := time }) at_ args m
  refine ⟨depth, ?_, (balances_invoke at_ args m).steps, ?_, deepest⟩
  · rw [ends]
    exact pending_flush _ t
  · rw [ends]
    exact continues.lines.trans flush_keeps

-- However a call ends, the session is as ready as before: no call is open and no line, steps were only
-- counted and lines only added, and never more calls were open than are allowed. So a call that fails
-- by its depth has itself opened all the calls that are allowed, whatever calls came before it.
theorem calls_recover (p : Script.Program) (l : Limits) (m : Machine) (used : Used p l m) :
    m.depth = 0 ∧ m.deepest ≤ l.maxCallDepth.toNat ∧
      (∀ time at_ args, Recovered l m (last (invoke at_ args { l with time := time } m))) ∧
      (∀ time at_ args n m',
        invoke at_ args { l with time := time } m = .error (.limit (.depth n)) m' →
        n = l.maxCallDepth ∧
          ∃ m'', invoke at_ args { l with time := time } (gauge 0 m) =
              .error (.limit (.depth n)) m'' ∧
            m''.deepest = l.maxCallDepth.toNat) ∧
      (∀ at_ args, l.time = .ample →
        (Session.call ⟨l, m⟩ at_ args).2 = ⟨l, last (invoke at_ args l m)⟩) ∧
      ∀ room l' m' at_ args,
        (last ((Run.rules room).callFunction at_ args l' m')).depth = m'.depth := by
  obtain ⟨level, within⟩ := used_level used
  refine ⟨level, within, fun time at_ args => invoke_recovered used time at_ args, ?_, ?_, ?_⟩
  · intro time at_ args n m' failed
    exact invoke_alone level failed
  · intro at_ args ample
    rw [call_machine]
    change Session.mk l (last ((checkTime >>= fun _ => invoke at_ args) l m)) = _
    rw [run_bind, run_checkTime, ample]
  · intro room l' m' at_ args
    exact (balances_composed (composed_callFunction room at_ args) m').depth

-- A function that calls itself without end, and leaves a line open.
def endless : Script.Program :=
  ⟨[.funcDef "go" [] []
      [.expr (.call (.name "print" 2) [.const (.text "go")] [.named "end" (.const (.text ""))] 2),
        .giveBack (some (.call (.name "go" 3) [] [] 3)) 3]
      true false 1], rfl⟩

def shallow : Limits := { maxCallDepth := 2 }

theorem endless_recovers :
    ∃ m m', Used endless shallow m ∧ invoke 0 [] shallow m = .error (.limit (.depth 2)) m' ∧
      Recovered shallow m m' ∧
      (∃ m'', invoke 0 [] shallow (gauge 0 m) = .error (.limit (.depth 2)) m'' ∧ m''.deepest = 2) ∧
      (Session.call ⟨shallow, m⟩ 0 []).2 = ⟨shallow, m'⟩ := by
  have refused : (given? (runModule endless shallow {})).map
      (fun r => (stopped? (invoke 0 [] shallow r.2)).map (·.1)) =
      some (some (.limit (.depth 2))) := by decide +kernel
  obtain ⟨⟨flow, m⟩, given, fails⟩ := Option.map_eq_some_iff.mp refused
  obtain ⟨⟨e, m'⟩, stopped, fault⟩ := Option.map_eq_some_iff.mp fails
  have failed : invoke 0 [] shallow m = .error (.limit (.depth 2)) m' :=
    (stopped_some stopped).trans (congrArg (EStateM.Result.error · m') fault)
  have used : Used endless shallow m :=
    @Used.started endless shallow .ample flow m (given_some given)
  obtain ⟨_, _, recovers, alone, calls, _⟩ := calls_recover endless shallow m used
  have recovered := recovers .ample 0 []
  have called := calls 0 [] rfl
  change Recovered shallow m (last (invoke 0 [] shallow m)) at recovered
  rw [failed] at recovered called
  exact ⟨m, m', used, failed, recovered, (alone .ample 0 [] 2 m' failed).2, called⟩

end Session
end ScriptArena
