import ScriptArena.Proofs.Run.Akin
import ScriptArena.Run.Evaluate
import ScriptArena.Script.Subset

namespace ScriptArena

-- Faults that tell of a missing rule.
def Fault.IsUnsupported : Fault → Prop
  | .noRule .. | .noTarget | .noOperator _ => True
  | .limit _ | .failure _ | .tooDeep => False

-- Each ceiling but the one on steps is at most the same ceiling of the other, and the host is the same.
structure Limits.Looser (l l' : Limits) : Prop where
  time : l.time = .ample → l'.time = .ample
  maxCallDepth : l.maxCallDepth ≤ l'.maxCallDepth
  maxOutputLines : l.maxOutputLines ≤ l'.maxOutputLines
  maxLineLength : l.maxLineLength ≤ l'.maxLineLength
  maxSequenceLength : l.maxSequenceLength ≤ l'.maxSequenceLength
  maxExponent : l.maxExponent ≤ l'.maxExponent
  maxIntBits : l.maxIntBits ≤ l'.maxIntBits
  order : l'.order = l.order

-- What passes a guard passes it under looser ceilings, with the same answer.
def Eases {α : Type} (g : Limits → Heap → Except Trouble α) : Prop :=
  ∀ l l' h a, l.Looser l' → g l h = .ok a → g l' h = .ok a

-- What a computation may do with the operations that not all may use freely.
structure Licence where
  -- Faults of missing rules that it may stop with.
  faults : Fault → Prop
  -- What the functions that it defines or looks into may consist of.
  stmts : Script.Around × Script.Stmt → Prop
  -- Scopes whose names it may bind.
  scopes : Nat → Prop
  -- Whether it may have nodes evaluated.
  evaluates : Prop

namespace Licence

-- No loop around a function reaches into its body.
def Knows (t : Licence) (c : Closure) : Prop := ∀ s ∈ c.body, t.stmts (⟨false, true⟩, s)

-- Steps, the time and the depth of calls stop a run only where they are looked at.
def Stops (t : Licence) : Fault → Prop
  | .limit (.resource _) | .failure _ | .tooDeep => True
  | .limit _ => False
  | e => t.faults e

-- Nothing is withheld, unless it is evaluation.
def free (evaluates : Prop) : Licence :=
  ⟨fun _ => True, fun _ => True, fun _ => True, evaluates⟩

end Licence

-- The heaps differ in nothing but lists and mappings.
structure Heap.Agrees (h h' : Heap) : Prop where
  frames : h'.frames = h.frames
  closures : h'.closures = h.closures

theorem Heap.agrees_own (h : Heap) (v : Value) : h.Agrees (h.own v).2 := by
  obtain ⟨n, same⟩ := h.own_eq v
  exact same ▸ ⟨rfl, rfl⟩

-- Numbers are given out without a look at the scopes.
theorem Heap.own_apart (h : Heap) (v : Value) (frames : Array Frame) :
    { h with frames }.own v = ((h.own v).1, { (h.own v).2 with frames }) := by
  unfold own
  split
  · rfl
  · rfl

theorem Heap.agrees_ownAll (h : Heap) (items : List Value) : h.Agrees (h.ownAll items).2 := by
  obtain ⟨n, same⟩ := h.ownAll_eq items
  exact same ▸ ⟨rfl, rfl⟩

theorem Heap.ownAll_apart (h : Heap) (items : List Value) (frames : Array Frame) :
    { h with frames }.ownAll items = ((h.ownAll items).1, { (h.ownAll items).2 with frames }) := by
  induction items generalizing h with
  | nil => rfl
  | cons v rest ih => simp only [ownAll, own_apart, ih]

namespace Run

-- Put together from the operations of the machine, as far as the licence allows.
inductive Composed (t : Licence) : {α : Type} → Run α → Prop where
  | value (a : α) : Composed t (pure a)
  | step {x : Run α} {f : α → Run β} (first : Composed t x) (rest : ∀ a, Composed t (f a)) :
      Composed t (x >>= f)
  | stop {e : Fault} (may : t.Stops e) : Composed t (throw e : Run α)
  | look (f : Heap → α) [Oblivious f] : Composed t (look f)
  | inspect {at_ : Nat} {f : Closure → Run α} (rest : ∀ c, t.Knows c → Composed t (f c)) :
      Composed t (Run.look (·.closureAt at_) >>= f)
  | guarded {g : Limits → Heap → Except Trouble α} (eases : Eases g)
      (impartial : ¬ t.evaluates → Impartial g) : Composed t (guarded g)
  | change {f : Heap → Heap} (keeps : ∀ h : Heap, h.Agrees (f h))
      (apart : ∀ h frames, f { h with frames } = { f h with frames }) :
      Composed t (change f)
  | allocate {f : Heap → α × Heap} (keeps : ∀ h : Heap, h.Agrees (f h).2)
      (apart : ∀ h frames, f { h with frames } = ((f h).1, { (f h).2 with frames })) :
      Composed t (allocate f)
  | define {c : Closure} (known : t.Knows c) (may : t.scopes c.scope) :
      Composed t (allocate (·.newClosure c) >>= bind c.scope c.name)
  | opened {f : Frame} {rest : Nat → Run α} (may : t.evaluates)
      (rests : ∀ i, t.scopes i → Composed t (rest i)) : Composed t (newFrame f >>= rest)
  | bind {scope : Nat} (may : t.scopes scope) (name : String) (v : Value) :
      Composed t (bind scope name v)
  | tick : Composed t tick
  | enter (may : t.evaluates) : Composed t enter
  | checkTime : Composed t checkTime
  | checkDepth : Composed t checkDepth
  | emit (made : Made) : Composed t (emit made)
  | loop {probe : σ → Run (τ ⊕ α)} {body : τ → Run (σ ⊕ α)} (s : σ)
      (probes : ∀ s, Composed t (probe s)) (bodies : ∀ r, Composed t (body r)) :
      Composed t (loop probe body s)
  | called {x : Run α} (inner : Composed t x) : Composed t (checkDepth >>= fun _ => deeper x)
  | undoing {x : Run α} {undo : Heap → Heap} (keeps : ∀ h : Heap, h.Agrees (undo h))
      (inner : Composed t x)
      (apart : ∀ h frames, undo { h with frames } = { undo h with frames }) :
      Composed t (undoing undo x)

-- A name is looked up without changing anything.
theorem lookUp_asks (scope : Nat) (name : String) :
    lookUp scope name = guarded fun _ h =>
      match h.lookup? scope name with
      | some v => .ok v
      | none => .error (.failure (.unboundName name)) := by
  funext l m
  change (match m.heap.lookup? scope name with
    | some v => pure v
    | none => throw (.failure (.unboundName name)) : Run Value) l m =
      (settle (match m.heap.lookup? scope name with
        | some v => .ok v
        | none => .error (.failure (.unboundName name))) : Run Value) l m
  cases m.heap.lookup? scope name with
  | some v => rfl
  | none => rfl

variable {t : Licence} {α β : Type}

theorem stops_trouble (e : Trouble) : t.Stops e.toFault := by
  cases e <;> exact trivial

theorem composed_settle (x : Except Trouble α) : Composed t (settle x) := by
  cases x with
  | ok a => exact .value a
  | error e => exact .stop (stops_trouble e)

theorem composed_ask (f : Heap → Except Trouble α) [Oblivious f] : Composed t (ask f) :=
  .step (.look f) composed_settle

theorem composed_guarded {g : Limits → Heap → Except Trouble α} [impartial : Impartial g] (eases : Eases g) :
    Composed t (guarded g) :=
  .guarded eases fun _ => impartial

theorem composed_failure (what : Failure) :
    Composed t (throw (.failure what) : Run α) :=
  .stop trivial

-- Where a computation stops at once, what would follow does not matter.
theorem composed_failed {what : Failure} {f : α → Run β} :
    Composed t (throw (.failure what) >>= f) :=
  composed_failure what

theorem composed_branch {c : Prop} [Decidable c] {x y : Run α} (yes : Composed t x)
    (no : Composed t y) : Composed t (if c then x else y) := by
  split
  · exact yes
  · exact no

theorem composed_newList (items : Array Value) : Composed t (newList items) :=
  .allocate (fun _ => ⟨rfl, rfl⟩) fun _ _ => rfl

theorem composed_newDict (d : Dict) : Composed t (newDict d) :=
  .allocate (fun _ => ⟨rfl, rfl⟩) fun _ _ => rfl

theorem composed_own (v : Value) : Composed t (own v) :=
  .allocate (fun h => h.agrees_own v) fun h frames => h.own_apart v frames

theorem composed_keep (made : Made) : Composed t (keep made) := by
  cases made with
  | value v => exact composed_own v
  | list items => exact composed_newList items
  | set items =>
    refine .step (.allocate (fun h => h.agrees_ownAll items) fun h frames => h.ownAll_apart items frames)
      fun items => .step (composed_guarded fun l l' h _ looser ordered => ?_) fun _ => composed_own _
    rwa [looser.order]

theorem composed_each {f : α → Run β} (items : List α)
    (each : ∀ x ∈ items, Composed t (f x)) :
    Composed t (items.mapM f) := by
  induction items with
  | nil => exact .value []
  | cons x rest ih =>
    rw [List.mapM_cons]
    refine .step (each x List.mem_cons_self) fun b => .step ?_ fun bs => .value (b :: bs)
    exact ih fun y member => each y (List.mem_cons_of_mem _ member)

theorem composed_fold {f : β → α → Run β} (items : List α) (b : β)
    (each : ∀ b, ∀ x ∈ items, Composed t (f b x)) :
    Composed t (items.foldlM f b) := by
  induction items generalizing b with
  | nil => exact .value b
  | cons x rest ih =>
    rw [List.foldlM_cons]
    refine .step (each b x List.mem_cons_self) fun b => ih b ?_
    exact fun b y member => each b y (List.mem_cons_of_mem _ member)

theorem composed_forIn {f : α → β → Run (ForInStep β)} (items : List α) (b : β)
    (each : ∀ b, ∀ x ∈ items, Composed t (f x b)) :
    Composed t (forIn items b f) := by
  induction items generalizing b with
  | nil => exact .value b
  | cons x rest ih =>
    rw [List.forIn_cons]
    refine .step (each b x List.mem_cons_self) fun s => ?_
    cases s with
    | done b => exact .value b
    | yield b => exact ih b fun b y member => each b y (List.mem_cons_of_mem _ member)

end Run
end ScriptArena
