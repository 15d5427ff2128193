import ScriptArena.Proofs.Run.Evaluation
import ScriptArena.Proofs.Run.Operations
import ScriptArena.Run.Session

namespace ScriptArena

variable {t : Licence}

namespace Heap

-- All functions are within the licence, and so are all scopes that are still to be made.
structure Holds (t : Licence) (h : Heap) : Prop where
  closures : ∀ i, t.Knows (h.closureAt i)
  scopes : ∀ i, h.frames.size ≤ i → t.scopes i

structure Grows (t : Licence) (h h' : Heap) : Prop where
  knows : ∀ i, t.Knows (h'.closureAt i)
  closures : h.closures.toList <+: h'.closures.toList
  frames : h.frames.size ≤ h'.frames.size
  kept : ∀ i < h.frames.size, ¬ t.scopes i → h'.frameAt i = h.frameAt i

variable {h h' h'' : Heap}

theorem Holds.grown (holds : h.Holds t) (grows : h.Grows t h') : h'.Holds t :=
  ⟨grows.knows, fun i beyond => holds.scopes i (Nat.le_trans grows.frames beyond)⟩

theorem Grows.trans (one : h.Grows t h') (two : h'.Grows t h'') : h.Grows t h'' where
  knows := two.knows
  closures := one.closures.trans two.closures
  frames := Nat.le_trans one.frames two.frames
  kept := fun i old barred =>
    (two.kept i (Nat.lt_of_lt_of_le old one.frames) barred).trans (one.kept i old barred)

theorem Grows.closureAt (grows : h.Grows t h') {i : Nat} (old : i < h.closures.size) :
    h'.closureAt i = h.closureAt i := by
  obtain ⟨added, same⟩ := grows.closures
  rw [Heap.closureAt, Heap.closureAt, ← Array.getElem?_toList, ← same,
    List.getElem?_append_left (by simpa using old), Array.getElem?_toList]

section
variable (holds : h.Holds t)
include holds

theorem Holds.agrees (agrees : h.Agrees h') : h.Grows t h' := by
  refine ⟨fun i => ?_, ?_, ?_, fun i _ _ => ?_⟩
  · rw [Heap.closureAt, agrees.closures]
    exact holds.closures i
  · exact agrees.closures ▸ List.prefix_rfl
  · exact Nat.le_of_eq (congrArg Array.size agrees.frames.symm)
  · rw [frameAt, agrees.frames, frameAt]

theorem Holds.refl : h.Grows t h := holds.agrees ⟨rfl, rfl⟩

theorem Holds.newClosure {c : Closure} (known : t.Knows c) : h.Grows t (h.newClosure c).2 := by
  refine ⟨fun i => ?_, ?_, Nat.le_refl _, fun _ _ _ => rfl⟩
  · have others := holds.closures i
    simp only [Heap.newClosure, Heap.closureAt, Array.getElem?_push] at others ⊢
    split
    · exact known
    · exact others
  · simp only [Heap.newClosure, Array.toList_push]
    exact List.prefix_append _ _

theorem Holds.newFrame (f : Frame) : h.Grows t (h.newFrame f).2 := by
  refine ⟨holds.closures, List.prefix_rfl, ?_, fun i old _ => ?_⟩
  · simp only [Heap.newFrame, Array.size_push]
    exact Nat.le_succ _
  · have other : i ≠ h.frames.size := Nat.ne_of_lt old
    simp only [Heap.newFrame, frameAt, Array.getElem?_push, other, if_false]

theorem Holds.bind {scope : Nat} (may : t.scopes scope) (name : String) (v : Value) :
    h.Grows t (h.bind scope name v) := by
  refine ⟨holds.closures, List.prefix_rfl, ?_, fun i _ barred => ?_⟩
  · simp only [Heap.bind, Array.size_modify]
    exact Nat.le_refl _
  · have other : scope ≠ i := fun same => barred (same ▸ may)
    simp only [Heap.bind, frameAt, Array.getElem?_modify, other, if_false]

end
end Heap

namespace Run

variable {α β σ τ : Type}

-- How a computation may end.
def Safe (t : Licence) (h : Heap) : EStateM.Result Fault Machine α → Prop
  | .ok _ m => h.Grows t m.heap
  | .error e m => h.Grows t m.heap ∧ (e.IsUnsupported → t.faults e)

def Sound (t : Licence) (x : Run α) : Prop := ∀ l m, m.heap.Holds t → Safe t m.heap (x l m)

theorem stops_faults {e : Fault} (may : t.Stops e) (unsupported : e.IsUnsupported) : t.faults e := by
  cases e with
  | noRule | noTarget | noOperator => exact may
  | limit | failure | tooDeep => exact unsupported.elim

theorem safe_step {x : Run α} {f : α → Run β} {l : Limits} {m : Machine} (holds : m.heap.Holds t)
    (first : Safe t m.heap (x l m))
    (rest : ∀ a mid, x l m = .ok a mid → mid.heap.Holds t → Safe t mid.heap (f a l mid)) :
    Safe t m.heap ((x >>= f) l m) := by
  rw [run_bind]
  cases ended : x l m with
  | error e mid =>
    rw [ended] at first
    exact first
  | ok a mid =>
    rw [ended] at first
    have later := rest a mid ended (holds.grown first)
    dsimp only
    cases final : f a l mid with
    | ok b m' =>
      rw [final] at later
      exact first.trans later
    | error e m' =>
      rw [final] at later
      exact ⟨first.trans later.1, later.2⟩

theorem sound_step {x : Run α} {f : α → Run β} (first : Sound t x) (rest : ∀ a, Sound t (f a)) :
    Sound t (x >>= f) :=
  fun l m holds => safe_step holds (first l m holds) fun a mid _ => rest a l mid

theorem sound_value (a : α) : Sound t (pure a) := fun _ _ holds => holds.refl

theorem sound_stop {e : Fault} (may : e.IsUnsupported → t.faults e) : Sound t (throw e : Run α) :=
  fun _ _ holds => ⟨holds.refl, may⟩

theorem sound_inspect {at_ : Nat} {f : Closure → Run α} (rest : ∀ c, t.Knows c → Sound t (f c)) :
    Sound t (look (·.closureAt at_) >>= f) :=
  fun l m holds => rest _ (holds.closures at_) l m holds

-- A new scope is beyond all others.
theorem sound_opened {f : Frame} {rest : Nat → Run α} (rests : ∀ i, t.scopes i → Sound t (rest i)) :
    Sound t (newFrame f >>= rest) := by
  intro l m holds
  refine safe_step holds (holds.newFrame f) fun i mid made => ?_
  cases made
  exact rests _ (holds.scopes _ (Nat.le_refl _)) l _

theorem sound_guarded (g : Limits → Heap → Except Trouble α) : Sound t (guarded g) := by
  intro l m holds
  rw [run_guarded]
  cases g l m.heap with
  | ok a => exact holds.refl
  | error e => exact ⟨holds.refl, stops_faults (stops_trouble e)⟩

theorem sound_checkTime : Sound t checkTime := by
  intro l m holds
  rw [run_checkTime]
  cases l.time with
  | ample => exact holds.refl
  | spent seconds => exact ⟨holds.refl, False.elim⟩

theorem sound_checkDepth : Sound t checkDepth := by
  intro l m holds
  rw [run_checkDepth]
  split
  · exact ⟨holds.refl, False.elim⟩
  · exact holds.refl

theorem sound_tick : Sound t tick := by
  intro l m holds
  rw [run_tick]
  split
  · exact ⟨holds.refl, False.elim⟩
  · split
    · exact sound_checkTime l m.counted holds
    · exact holds.refl

theorem sound_enter : Sound t enter := fun _ _ holds => holds.refl

theorem sound_emit (made : Made) : Sound t (emit made) := by
  intro l m holds
  rw [run_emit]
  split
  · exact holds.refl
  · split
    · exact holds.refl
    · exact ⟨holds.refl, False.elim⟩

section
variable {probe : σ → Run (τ ⊕ α)} {body : τ → Run (σ ⊕ α)}
  (probes : ∀ s, Sound t (probe s)) (bodies : ∀ r, Sound t (body r))
include probes bodies

theorem sound_turn (s : σ) : Sound t (turn probe body s) := by
  refine sound_step (probes s) fun found => ?_
  cases found with
  | inr a => exact sound_value _
  | inl r => exact sound_step sound_tick fun _ => sound_step sound_enter fun _ => bodies r

theorem sound_rounds (fuel : Nat) (s : σ) : Sound t (rounds probe body fuel s) := by
  induction fuel generalizing s with
  | zero => exact fun _ _ holds => ⟨holds.refl, False.elim⟩
  | succ fuel ih =>
    refine sound_step (sound_turn probes bodies s) fun next => ?_
    cases next with
    | inr a => exact sound_value a
    | inl s => exact ih s

end

theorem Safe.leaving {h : Heap} {r : EStateM.Result Fault Machine α}
    {given stopped : Machine → Machine} (safe : Safe t h r)
    (gave : ∀ m, h.Grows t m.heap → h.Grows t (given m).heap)
    (stops : ∀ m, h.Grows t m.heap → h.Grows t (stopped m).heap) :
    Safe t h (leaving given stopped r) := by
  cases r with
  | ok a m => exact gave m safe
  | error e m => exact ⟨stops m safe.1, safe.2⟩

theorem sound_deeper {x : Run α} (inner : Sound t x) : Sound t (deeper x) := by
  intro l m holds
  rw [run_deeper]
  have safe := inner l m.deepened holds
  exact safe.leaving (fun _ grows => grows) fun _ grows => grows

theorem sound_undoing {x : Run α} {undo : Heap → Heap} (keeps : ∀ h : Heap, h.Agrees (undo h))
    (inner : Sound t x) : Sound t (undoing undo x) := by
  intro l m holds
  rw [run_undoing]
  exact (inner l m holds).leaving (fun _ grows => grows) fun m' grows =>
    grows.trans ((holds.grown grows).agrees (keeps m'.heap))

theorem sound_flushed {x : Run α} (inner : Sound t x) : Sound t (flushed x) := by
  intro l m holds
  rw [run_flushed]
  exact (inner l m holds).leaving (fun _ grows => grows) fun _ grows => grows

theorem sound_composed {x : Run α} (composed : Composed t x) : Sound t x := by
  induction composed with
  | value a => exact sound_value a
  | step _ _ first rest => exact sound_step first rest
  | stop may => exact sound_stop (stops_faults may)
  | look f => exact fun _ _ holds => holds.refl
  | inspect _ rest => exact sound_inspect rest
  | guarded => exact sound_guarded _
  | change keeps => exact fun _ m holds => holds.agrees (keeps m.heap)
  | allocate keeps => exact fun _ m holds => holds.agrees (keeps m.heap)
  | define known may =>
    exact sound_step (fun _ _ holds => holds.newClosure known) fun v _ _ holds => holds.bind may _ v
  | opened _ _ rests => exact sound_opened rests
  | bind may name v => exact fun _ _ holds => holds.bind may name v
  | tick => exact sound_tick
  | enter => exact sound_enter
  | checkTime => exact sound_checkTime
  | checkDepth => exact sound_checkDepth
  | emit made => exact sound_emit made
  | loop s _ _ probes bodies => exact fun l m => sound_rounds probes bodies _ s l m
  | called _ inner => exact sound_step sound_checkDepth fun _ => sound_deeper inner
  | undoing keeps _ _ inner => exact sound_undoing keeps inner

end Run

-- All that the sessions of a program do is within the licence.
structure Licence.Admits (t : Licence) (p : Script.Program) : Prop extends t.Suits where
  scopes : ∀ i, t.scopes i
  body : ∀ s ∈ p.body, t.stmts (⟨false, false⟩, s)

namespace Session
open Run

-- Sessions of a program, whatever calls were made and whatever the host put into lists, mappings
-- and scopes between them.
inductive Reached (p : Script.Program) : Session → Prop where
  | started (ran : start p l = .ok s) : Reached p s
  | called (prior : Reached p s) (at_ : Nat) (args : List Value) : Reached p (s.call at_ args).2
  | fed (prior : Reached p s) (kept : h.closures = s.machine.heap.closures) :
      Reached p { s with machine := { s.machine with heap := h } }

theorem sound_call (suits : t.Suits) (at_ : Nat) (args : List Value) :
    Sound t (callBody at_ args) := by
  refine sound_step sound_checkTime fun _ => sound_flushed (sound_composed ?_)
  exact known_callFunction (known_rules suits maxRunDepth) at_ _

-- Whether a call succeeds or not.
theorem call_grows (suits : t.Suits) {s : Session} (holds : s.machine.heap.Holds t) (at_ : Nat)
    (args : List Value) : s.machine.heap.Grows t (s.call at_ args).2.machine.heap := by
  have safe := sound_call suits at_ args s.limits s.machine holds
  unfold Session.call
  split
  · rename_i ended
    rw [ended] at safe
    exact safe
  · rename_i ended
    rw [ended] at safe
    exact safe.1

variable {p : Script.Program} (admits : t.Admits p)
include admits

theorem initial_holds : ({} : Machine).heap.Holds t :=
  ⟨fun _ _ member => (nomatch member), fun i _ => admits.scopes i⟩

theorem start_safe (l : Limits) : Safe t ({} : Machine).heap (runModule p l {}) :=
  sound_composed (known_block (known_rules admits.toSuits maxRunDepth) ⟨false, false⟩
    (admits.scopes _) p.body admits.body) l {} (initial_holds admits)

theorem start_grows {l : Limits} {s : Session} (ran : start p l = .ok s) :
    ({} : Machine).heap.Grows t s.machine.heap := by
  have safe := start_safe admits l
  obtain ⟨-, flow, ended⟩ := start_ran ran
  rw [ended] at safe
  exact safe

theorem reached_holds {s : Session} (reached : Reached p s) : s.machine.heap.Holds t := by
  induction reached with
  | started ran => exact (initial_holds admits).grown (start_grows admits ran)
  | called prior at_ args ih => exact ih.grown (call_grows admits.toSuits ih at_ args)
  | @fed s h prior kept ih =>
    refine ⟨fun i => ?_, fun i _ => admits.scopes i⟩
    rw [Heap.closureAt, kept]
    exact ih.closures i

end Session
end ScriptArena
