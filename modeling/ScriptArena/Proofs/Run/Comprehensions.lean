import ScriptArena.Proofs.Run.Reruns

namespace ScriptArena

open Script

namespace Script

-- What is done if all conditions hold, which are looked at one after the other.
def under (conditions : List Expr) (body : List Stmt) : List Stmt :=
  conditions.foldr (fun c body => [.branch c body []]) body

def nested (innermost : Stmt) : List Generator → List Stmt
  | [] => [innermost]
  | .mk target iter conditions _ :: rest => [.forLoop target iter (under conditions (nested innermost rest)) []]

def appending (name : String) (line : Nat) (element : Expr) : Stmt :=
  .expr (.call (.attribute (.name name line) "append" line) [element] [] line)

-- The comprehension as statements, which collect its items in a list of that name.
def collecting (name : String) (line : Nat) (element : Expr) (generators : List Generator) : List Stmt :=
  .assign [.name name line] (.list []) :: nested (appending name line element) generators

end Script

namespace Run

-- What statements have put under a name in a scope of their own, within the given one.
def collected (r : Rules) (scope : Nat) (name : String) (body : List Stmt) : Run Value := do
  let inner ← newFrame ⟨#[], some scope⟩
  let _ ← r.block inner body
  lookUp inner name

variable {α : Type} {a : Option Aside} {p : Aside} {l : Limits} {w : Heap} {r : Rules}

theorem traceless_name (line : Nat) :
    Traceless (some p) l (fun k => (rules k).eval p.place (.name p.name line)) p.value :=
  traceless_further (fun _ _ calm => calm trivial) (traceless_bind traceless_enter traceless_lookUp)

theorem traceless_append {at_ : Nat} (held : p.value = .list at_) (line : Nat) :
    Traceless (some p) l (fun k => (rules k).evalCallee p.place
      (.attribute (.name p.name line) "append" line)) (.listMethod .append at_) := by
  refine traceless_bind (traceless_name line) ?_
  rw [held]
  exact traceless_value _

theorem block_single (r : Rules) (scope : Nat) (s : Stmt) : r.block scope [s] = r.exec scope s := by
  refine (bind_congr fun flow => ?_).trans (bind_pure _)
  cases flow with
  | _ => rfl

-- Only the second run has a statement there.
theorem mirrors_statement {R : α → Flow → Prop} {x : Run α} {scope : Nat} {s : Stmt}
    (inner : Mirrors a w l R x fun k => (rules k).execStmt scope s) :
    Mirrors a w l R x fun k => (rules k).block scope [s] := by
  simp only [block_single]
  refine mirrors_further (fun _ _ calm => calm trivial) ?_
  exact mirrors_beside traceless_enter inner

theorem oversize_ceiling {what : Oversize} {size : Heap → Int} (l : Limits) (h : Heap) (e : Trouble)
    (refused : Guard.checkSize l what (size h) = .error e) : e.toFault.IsCeiling := by
  unfold Guard.checkSize at refused
  split at refused
  · cases refused
    exact trivial
  · cases refused

section
variable (mirrored : r.Mirrored (some p) l)
include mirrored

theorem mirrors_under {R : α → Flow → Prop} {conditions : List Expr} {x y : Run α} {body : List Stmt}
    (avoids : ∀ e ∈ conditions, e.Avoids p.name)
    (holds : Mirrors (some p) w l R x fun k => (rules k).block p.place body)
    (fails : Mirrors (some p) w l R y fun _ => pure .normal) :
    Mirrors (some p) w l R (do if ← r.allTrue p.place conditions then x else y) fun k =>
      (rules k).block p.place (under conditions body) := by
  induction conditions with
  | nil => exact holds
  | cons c rest ih =>
    rcases List.forall_mem_cons.mp avoids with ⟨first, others⟩
    refine mirrors_statement (mirrors_beside traceless_tick ?_)
    simp only [Rules.allTrue, bind_assoc]
    refine mirrors_step (mirrored.eval w p.place c (.aside first)) fun v => ?_
    refine mirrors_step (mirrors_isTrue v) fun truth => ?_
    cases truth with
    | false => exact fails
    | true => exact ih others

-- The innermost statement evaluates the element and appends it. What is asked for beside, only a ceiling
-- can refuse.
theorem mirrors_appending {at_ : Nat} (held : p.value = .list at_) (line : Nat) {element : Expr}
    (avoids : element.Avoids p.name) :
    Mirrors (some p) w l (fun _ flow => flow = .normal) (r.comprehend p.place element at_ []) fun k =>
      (rules k).block p.place [appending p.name line element] := by
  refine mirrors_statement (mirrors_beside traceless_tick (mirrors_after (R := fun _ _ => True) ?_ ?_))
  · refine mirrors_further (fun _ _ calm => calm trivial) (mirrors_beside traceless_enter ?_)
    refine mirrors_beside (traceless_append held line) ?_
    simp only [Rules.evalArguments, List.mapM_cons, List.mapM_nil, List.foldlM_nil, bind_assoc, pure_bind,
      Rules.comprehend]
    refine mirrors_step (mirrored.eval w p.place element (.aside avoids)) fun v => ?_
    have appended : ∀ r : Rules, r.call (.listMethod .append at_) ⟨[v], []⟩ = (do
        change (·.modifyList at_ (·.push v))
        checkTime
        return Value.none) := fun _ => rfl
    simp only [appended]
    refine mirrors_step (mirrors_change (fun _ => ⟨rfl, rfl⟩) fun _ _ => rfl) fun _ => ?_
    refine mirrors_beside traceless_checkTime ?_
    rw [← bind_pure (guarded _)]
    exact mirrors_passing oversize_ceiling fun _ => mirrors_pure trivial
  · exact fun _ _ _ => mirrors_pure rfl

-- Each clause is a loop over the items that its conditions let through.
theorem mirrors_nested {at_ : Nat} (held : p.value = .list at_) (line : Nat) {element : Expr}
    (generators : List Generator)
    (avoids : ∀ e ∈ element :: generators.flatMap Generator.parts, e.Avoids p.name) :
    Mirrors (some p) w l (fun _ flow => flow = .normal) (r.comprehend p.place element at_ generators)
      fun k => (rules k).block p.place (nested (appending p.name line element) generators) := by
  induction generators with
  | nil => exact mirrors_appending mirrored held line (avoids element List.mem_cons_self)
  | cons g rest ih =>
    obtain ⟨target, iter, conditions, isAsync⟩ := g
    rcases List.forall_mem_cons.mp avoids with ⟨ofElement, ofOthers⟩
    rw [List.flatMap_cons] at ofOthers
    rcases List.forall_mem_append.mp ofOthers with ⟨part, later⟩
    have inner := ih (List.forall_mem_cons.mpr ⟨ofElement, later⟩)
    refine mirrors_statement (mirrors_beside traceless_tick ?_)
    refine mirrors_step (mirrored.eval w p.place iter (.aside (part iter ?_))) fun source => ?_
    · simp [Generator.parts]
    refine mirrors_after (mirrors_foldItems (S := fun _ flow => flow = .normal) (fun _ _ v _ => ?_)
      source rfl) fun _ flow same => ?_
    · refine mirrors_step (mirrored_assign mirrored target (.aside (part target ?_)) v) fun _ => ?_
      · simp [Generator.parts]
      refine mirrors_after (mirrors_under mirrored (R := fun step flow => step = .yield () ∧ flow = .normal)
        (fun e member => part e ?_) (mirrors_before inner ?_) (mirrors_pure ⟨rfl, rfl⟩)) ?_
      · simp [Generator.parts, member]
      · exact fun _ _ same => mirrors_pure ⟨rfl, same⟩
      · rintro _ _ ⟨rfl, rfl⟩
        exact mirrors_pure (.yield rfl)
    · subst same
      exact mirrors_pure rfl

-- What is in the list, once all clauses have been gone through, is found under its name.
theorem mirrors_collecting {at_ : Nat} (held : p.value = .list at_) (line : Nat) {element : Expr}
    {generators : List Generator} (fresh : (Expr.listComp element generators).Avoids p.name) :
    Mirrors (some p) w l Eq (r.comprehend p.place element at_ generators >>= fun _ => pure p.value) fun k =>
      (rules k).block p.place (nested (appending p.name line element) generators) >>= fun _ =>
        lookUp p.place p.name := by
  have avoids : ∀ e ∈ element :: generators.flatMap Generator.parts, e.Avoids p.name :=
    fun e member => fresh.part (List.mem_map_of_mem member)
  refine mirrors_bind (mirrors_nested mirrored held line generators avoids) fun _ _ _ => ?_
  have found := mirrors_beside (x := pure p.value) (traceless_lookUp (p := p) (l := l))
    (mirrors_value (w := w) p.value)
  simpa only [bind_pure] using found

end

theorem settles_naming (m : Machine) (inner : Nat) (name : String) (line : Nat) : ∃ mid,
    Settles l (fun k => (rules k).exec inner (.assign [.name name line] (.list []))) m (.ok .normal mid) ∧
      mid.heap = (m.heap.newList #[]).2.bind inner name (.list m.heap.lists.size) ∧
      mid.depth = m.depth ∧ mid.transcript = m.transcript := by
  have listed : Settles l (fun k => (rules k).eval inner (.list [])) m.worked.counted
      (.ok (.list m.heap.lists.size) { m.worked.counted.worked with heap := (m.heap.newList #[]).2 }) :=
    settles_further (fun _ _ calm => calm trivial) (settles_same fun _ _ => rfl)
  refine ⟨_, settles_further (fun _ _ calm => calm trivial) (settles_bind (settles_same fun _ _ => rfl)
    (settles_bind (settles_tick _) (settles_bind listed (settles_same fun _ _ => rfl)))), rfl, rfl, rfl⟩

-- A scope with nothing but a name that is bound in it has the name put aside.
theorem naming_aside (h : Heap) (scope : Nat) (name : String) (v : Value) :
    ((h.newFrame ⟨#[], some scope⟩).2.newList #[]).2.bind h.frames.size name v =
      ((h.newList #[]).2.newFrame ⟨#[], some scope⟩).2.beside (some ⟨h.frames.size, name, v⟩) := by
  simp only [Heap.bind, Heap.newList, Heap.newFrame, Heap.beside, Heap.putAside, Heap.mk.injEq, true_and,
    and_true]
  apply Array.ext
  · simp
  · intro i one two
    by_cases own : h.frames.size = i
    · subst own
      simp [Array.getElem_modify, Frame.bind, Frame.beginning]
    · simp [Array.getElem_modify, own]

-- Functions that were there before do not see into a new scope.
theorem shields_naming {h : Heap} (rooted : h.Rooted) (f : Frame) (name : String) (v : Value) :
    ((h.newList #[]).2.newFrame f).2.Shields (some ⟨h.frames.size, name, v⟩) := by
  have listed : h.Widens (h.newList #[]).2 := Heap.widens_same rfl
  refine ⟨?_, (rooted.aside (Nat.le_refl _)).widens rfl (listed.trans (Heap.widens_newFrame f))⟩
  rintro _ ⟨⟩
  simp [Heap.newFrame, Heap.newList]

-- In any scope of any machine that evaluation can come to, a comprehension that no ceiling stops ends as
-- the loop does: with the same value or fault, the same transcript, and the same heap but for the name
-- that the loop has in the scope within. The loop may need more steps, and nodes that nest deeper; how much
-- it is given of either, and the time, are all that can make it end otherwise, and then at a ceiling.
theorem comprehension_is_loop (l : Limits) (m : Machine) (room scope line : Nat) (name : String)
    (element : Expr) (generators : List Generator) (rooted : m.heap.Rooted)
    (fresh : (Expr.listComp element generators).Avoids name)
    (calm : Calm ((rules room).eval scope (.listComp element generators) l m)) :
    ∃ s, Matches (some ⟨m.heap.frames.size, name, .list m.heap.lists.size⟩) Eq
        ((rules room).eval scope (.listComp element generators) l m) s ∧
      Settles l (fun room => collected (rules room) scope name
        (collecting name line element generators)) m s := by
  let p : Aside := ⟨m.heap.frames.size, name, .list m.heap.lists.size⟩
  let inner : Frame := ⟨#[], some scope⟩
  cases room with
  | zero => exact absurd trivial calm
  | succ room =>
    -- The list comes first in the one run, and the scope in the other.
    let ready : Machine := { m.worked with heap := ((m.heap.newList #[]).2.newFrame inner).2 }
    rcases settles_naming (l := l) { m with heap := (m.heap.newFrame inner).2 } p.place name line with
      ⟨mid, named, heap, depth, transcript⟩
    have beside : ready.Beside (some p) mid :=
      ⟨heap.trans (naming_aside m.heap scope name p.value), depth, transcript⟩
    have both := mirrors_collecting (w := ready.heap) (mirrored_rules (l := l) room)
      (p := p) rfl line fresh
    rcases both ready mid (.refl _) (shields_naming rooted inner name p.value) beside with ⟨-, settles⟩
    rcases settles calm with ⟨s, settles, matched⟩
    refine ⟨s, matched, ?_⟩
    simp only [collected, collecting, Rules.block, bind_assoc]
    exact settles_bind (settles_same fun _ _ => rfl) (settles_bind named settles)

-- `[print(y) for x, y in ((1, 0), (2, 3)) if y for z in range(x)]`
def echo : Expr := .call (.name "print" 1) [.name "y" 1] [] 1

def pairs : List Generator :=
  [.mk (.tuple [.name "x" 1, .name "y" 1])
    (.tuple [.tuple [.const (.int 1), .const (.int 0)], .tuple [.const (.int 2), .const (.int 3)]])
    [.name "y" 1] false,
  .mk (.name "z" 1) (.call (.name "range" 1) [.name "x" 1] [] 1) [] false]

theorem echoes_are_loop : Heap.initial.Rooted ∧ (Expr.listComp echo pairs).Avoids "r" ∧
    (given? ((rules 20).eval 0 (.listComp echo pairs) {} {})).map (·.2.transcript.lines.size) = some 2 ∧
    ∃ s, Matches (some ⟨1, "r", .list 0⟩) Eq ((rules 20).eval 0 (.listComp echo pairs) {} {}) s ∧
      Settles {} (fun room => collected (rules room) 0 "r" (collecting "r" 1 echo pairs)) {} s := by
  have fresh : (Expr.listComp echo pairs).Avoids "r" := by
    simp [echo, pairs, Expr.parts, operands, Generator.parts, fun c => Expr.avoids_iff "r" (.const c),
      fun word line => Expr.avoids_iff "r" (.name word line), fun es => Expr.avoids_iff "r" (.tuple es),
      fun callee args words line => Expr.avoids_iff "r" (.call callee args words line),
      fun element generators => Expr.avoids_iff "r" (.listComp element generators)]
  have ends : (given? ((rules 20).eval 0 (.listComp echo pairs) {} {})).map
      (·.2.transcript.lines.size) = some 2 := by decide +kernel
  obtain ⟨end_, given, -⟩ := Option.map_eq_some_iff.mp ends
  refine ⟨rooted_initial, fresh, ends,
    comprehension_is_loop {} {} 20 0 1 "r" echo pairs rooted_initial fresh ?_⟩
  rw [given_some given]
  exact trivial

end Run
end ScriptArena
