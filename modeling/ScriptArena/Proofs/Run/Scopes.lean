import ScriptArena.Proofs.Run.Soundness

namespace ScriptArena

-- Names may be bound from one scope on.
def Licence.above (n : Nat) : Licence := ⟨fun _ => True, fun _ => True, (n ≤ ·), True⟩

theorem suits_above (n : Nat) : (Licence.above n).Suits :=
  ⟨trivial, fun _ => Script.stmtCovered_any _, fun _ _ => trivial⟩

namespace Heap

variable {h h' : Heap}

theorem holds_above {n : Nat} (old : n ≤ h.frames.size) : h.Holds (.above n) :=
  ⟨fun _ _ _ => trivial, fun _ beyond => Nat.le_trans old beyond⟩

theorem Grows.frameAt {n i : Nat} (grows : h.Grows (.above n) h') (inside : i < n)
    (old : n ≤ h.frames.size) : h'.frameAt i = h.frameAt i :=
  grows.kept i (Nat.lt_of_lt_of_le inside old) (Nat.not_le.mpr inside)

end Heap

namespace Run

-- A comprehension binds its targets in a scope of its own, and so does every function that is called
-- on the way.
theorem eval_leaves (room scope : Nat) (e : Script.Expr) (l : Limits) (m : Machine) {i : Nat}
    (old : i < m.heap.frames.size) :
    match (rules room).eval scope e l m with
    | .ok _ m' | .error _ m' => m'.heap.frameAt i = m.heap.frameAt i := by
  have covered : Script.Covered (fun _ => True) (.operand, e) := fun _ _ _ _ => trivial
  have known := (known_rules (suits_above m.heap.frames.size) room).eval scope e covered
  have safe := sound_composed known l m (Heap.holds_above (Nat.le_refl _))
  cases ended : (rules room).eval scope e l m with
  | ok v m' =>
    rw [ended] at safe
    exact Heap.Grows.frameAt safe old (Nat.le_refl _)
  | error e m' =>
    rw [ended] at safe
    exact safe.1.frameAt old (Nat.le_refl _)

end Run

namespace Session
open Run

-- What becomes of a session by calls, and by a host that makes or changes lists and mappings.
inductive Becomes (s : Session) : Session → Prop where
  | same : Becomes s s
  | called (prior : Becomes s s') (at_ : Nat) (args : List Value) :
      Becomes s (s'.call at_ args).2
  | fed (prior : Becomes s s') (kept : s'.machine.heap.Agrees h) :
      Becomes s { s' with machine := { s'.machine with heap := h } }

variable {s s' : Session}

theorem becomes_grows {n : Nat} (old : n ≤ s.machine.heap.frames.size) (becomes : Becomes s s') :
    s.machine.heap.Grows (.above n) s'.machine.heap := by
  have holds := Heap.holds_above old
  induction becomes with
  | same => exact holds.refl
  | called prior at_ args ih =>
    exact ih.trans (call_grows (suits_above n) (holds.grown ih) at_ args)
  | fed prior kept ih => exact ih.trans ((holds.grown ih).agrees kept)

theorem started_frames {p : Script.Program} {l : Limits} (ran : start p l = .ok s) :
    0 < s.machine.heap.frames.size := by
  have admits : (Licence.above 0).Admits p :=
    { toSuits := suits_above 0, scopes := Nat.zero_le, body := fun _ _ => trivial }
  exact (start_grows admits ran).frames

theorem lookup_module {h h' : Heap} (same : h'.frameAt moduleScope = h.frameAt moduleScope)
    (name : String) : h'.lookup? moduleScope name = h.lookup? moduleScope name := by
  have own : h'.frameAt 0 = h.frameAt 0 := same
  simp only [Heap.lookup?, Heap.lookupFrom, moduleScope, own]

-- The module's names are those that they were when the session began, bound to what they were bound
-- to, in the same order; a name that is not among them means the builtin that it always meant; and
-- functions are what they were. A call leaves all scopes that there are, and so does an expression.
theorem scopes_kept (p : Script.Program) (l : Limits) (s : Session) (started : start p l = .ok s)
    (s' : Session) (becomes : Becomes s s') :
    s'.globals = s.globals ∧ s'.functions = s.functions ∧
      (∀ name, s'.function? name = s.function? name) ∧
      (∀ name, s'.machine.heap.lookup? moduleScope name = s.machine.heap.lookup? moduleScope name) ∧
      (∀ i < s.machine.heap.closures.size,
        s'.machine.heap.closureAt i = s.machine.heap.closureAt i) ∧
      (∀ at_ args, ∀ i < s'.machine.heap.frames.size,
        (s'.call at_ args).2.machine.heap.frameAt i = s'.machine.heap.frameAt i) ∧
      ∀ room scope e l m, ∀ i < m.heap.frames.size,
        match (Run.rules room).eval scope e l m with
        | .ok _ m' | .error _ m' => m'.heap.frameAt i = m.heap.frameAt i := by
  have old : moduleScope < s.machine.heap.frames.size := started_frames started
  have grows := becomes_grows (Nat.le_refl _) becomes
  have top : s'.machine.heap.frameAt moduleScope = s.machine.heap.frameAt moduleScope :=
    grows.frameAt old (Nat.le_refl _)
  have globals : s'.globals = s.globals := by rw [Session.globals, top, Session.globals]
  refine ⟨globals, ?_, fun name => ?_, lookup_module top, fun i => grows.closureAt, ?_, ?_⟩
  · rw [functions, globals, functions]
  · rw [function?, globals, function?]
  · intro at_ args i inside
    have called : Becomes s' (s'.call at_ args).2 := .called .same at_ args
    exact (becomes_grows (Nat.le_refl _) called).frameAt inside (Nat.le_refl _)
  · exact fun room scope e l m i inside => eval_leaves room scope e l m inside

-- A function that binds a name of the module, its own name and those of two builtins: by assignment,
-- by a loop, by a comprehension and by a definition.
def shadowing : Script.Program :=
  ⟨[.assign [.name "total" 1] (.const (.int 1)),
    .funcDef "shadow" ["items"] []
      [.assign [.name "total" 3]
        (.listComp (.name "len" 3) [.mk (.name "len" 3) (.name "items" 3) [] false]),
      .forLoop (.name "shadow" 4) (.name "items" 4)
        [.augAssign (.name "total" 5) .add (.list [.name "shadow" 5]) 5] [],
      .funcDef "print" [] [] [.giveBack (some (.name "total" 7)) 7] true false 6,
      .giveBack (some (.call (.name "print" 8) [] [] 8)) 8] true false 2], rfl⟩

-- One call returns and the other one fails.
theorem shadowing_kept :
    ∃ s, start shadowing {} = .ok s ∧
      (s.call 0 [.tuple none [.int 1, .int 2]]).1.isOk = true ∧
      ((s.call 0 [.tuple none [.int 1, .int 2]]).2.call 0 [.int 3]).1.isOk = false ∧
      Becomes s ((s.call 0 [.tuple none [.int 1, .int 2]]).2.call 0 [.int 3]).2 ∧
      ((s.call 0 [.tuple none [.int 1, .int 2]]).2.call 0 [.int 3]).2.globals = s.globals := by
  have calls : (start shadowing {}).toOption.map (fun s =>
      ((s.call 0 [.tuple none [.int 1, .int 2]]).1.isOk,
        ((s.call 0 [.tuple none [.int 1, .int 2]]).2.call 0 [.int 3]).1.isOk)) =
      some (true, false) := by decide +kernel
  obtain ⟨s, given, same⟩ := Option.map_eq_some_iff.mp calls
  obtain ⟨returns, fails⟩ := Prod.mk.inj same
  have started := toOption_some given
  have becomes : Becomes s _ := .called (.called .same 0 [.tuple none [.int 1, .int 2]]) 0 [.int 3]
  exact ⟨s, started, returns, fails, becomes, (scopes_kept shadowing {} s started _ becomes).1⟩

end Session
end ScriptArena
