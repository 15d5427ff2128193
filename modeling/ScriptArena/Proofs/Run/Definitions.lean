import Mathlib.Data.List.Induction
import Mathlib.Data.List.Sort
import ScriptArena.Judge.Evaluate
import ScriptArena.Proofs.Run.Bindings
import ScriptArena.Proofs.Run.Printing
import ScriptArena.Proofs.Value.Distinct

namespace ScriptArena

namespace Frame

variable {f : Frame} {name key : String} {v : Value} {bindings : List (String × Value)}

def names (f : Frame) : List String := f.vars.toList.map (·.1)

def empty : Frame := ⟨#[], none⟩

-- A name that is bound already keeps its place, and a new one gets the last.
theorem vars_bind (f : Frame) (name : String) (v : Value) :
    (∃ before old after, f.vars.toList = before ++ (name, old) :: after ∧
      (f.bind name v).vars.toList = before ++ (name, v) :: after) ∨
    name ∉ f.names ∧ (f.bind name v).vars.toList = f.vars.toList ++ [(name, v)] := by
  have places : f.vars.findIdx? (·.1 == name) = f.vars.toList.findIdx? (·.1 == name) :=
    List.findIdx?_toArray _ f.vars.toList
  rw [bind, places]
  cases place : f.vars.toList.findIdx? (·.1 == name) with
  | some i =>
    obtain ⟨inside, same, -⟩ := List.findIdx?_eq_some_iff_getElem.mp place
    have here : f.vars.toList[i] = (name, f.vars.toList[i].2) := Prod.ext (by simpa using same) rfl
    refine .inl ⟨f.vars.toList.take i, f.vars.toList[i].2, f.vars.toList.drop (i + 1), ?_, ?_⟩
    · rw [← here, List.getElem_cons_drop, List.take_append_drop]
    · dsimp only
      rw [Array.set!_eq_setIfInBounds, Array.toList_setIfInBounds, List.set_eq_take_append_cons_drop,
        if_pos inside]
  | none =>
    refine .inr ⟨?_, Array.toList_push⟩
    intro known
    obtain ⟨pair, inside, rfl⟩ := List.mem_map.mp known
    simpa using List.findIdx?_eq_none_iff.mp place pair inside

theorem names_bind :
    (f.bind name v).names = if name ∈ f.names then f.names else f.names ++ [name] := by
  rcases vars_bind f name v with ⟨before, old, after, was, now⟩ | ⟨fresh, now⟩
  · have known : name ∈ f.names := by simp [names, was]
    rw [if_pos known, names, now, names, was, List.map_append, List.map_append]
    rfl
  · rw [if_neg fresh, names, now, List.map_append]
    rfl

theorem binds_concat (pair : String × Value) :
    f.binds (bindings ++ [pair]) = (f.binds bindings).bind pair.1 pair.2 :=
  List.foldl_concat _ _ _ _

theorem names_binds : (empty.binds bindings).names = (bindings.map (·.1)).eraseDups := by
  induction bindings using List.reverseRecOn with
  | nil => rfl
  | append_singleton rest pair ih =>
    rw [binds_concat, names_bind, ih, List.map_append, List.map_singleton, eraseDups_concat]
    simp only [List.mem_eraseDups]

theorem nodup_binds : (empty.binds bindings).names.Nodup := by
  rw [names_binds]
  exact nodup_eraseDups _

-- A name is left with what it was bound to last.
theorem lookup_binds : (empty.binds bindings).vars.toList.lookup key = bindings.reverse.lookup key := by
  rw [← find?_lookup]
  induction bindings using List.reverseRecOn with
  | nil => rfl
  | append_singleton rest pair ih =>
    obtain ⟨name, v⟩ := pair
    rw [binds_concat, find?_bind, ih, List.reverse_append]
    exact (lookup_pair name v _).symm

-- Names that were bound only once stand as they were bound.
theorem filter_binds {counts : String → Bool}
    (once : ∀ name, counts name → (bindings.map (·.1)).count name ≤ 1) :
    (empty.binds bindings).vars.toList.filter (counts ·.1) = bindings.filter (counts ·.1) := by
  induction bindings using List.reverseRecOn with
  | nil => rfl
  | append_singleton rest pair ih =>
    simp only [List.map_append, List.count_append] at once
    have earlier := ih fun name counted => Nat.le_trans (Nat.le_add_right _ _) (once name counted)
    rw [binds_concat, List.filter_append, ← earlier]
    rcases vars_bind (empty.binds rest) pair.1 pair.2 with ⟨before, old, after, was, now⟩ | ⟨-, now⟩
    · have known : pair.1 ∈ rest.map (·.1) := by
        rw [← List.mem_eraseDups, ← names_binds, names, was]
        simp
      have other : counts pair.1 = false := by
        by_contra counted
        have twice := once pair.1 (by simpa using counted)
        have first := List.count_pos_iff.mpr known
        rw [List.map_singleton, List.count_singleton_self] at twice
        omega
      rw [was, now]
      simp [other]
    · rw [now, List.filter_append]

end Frame

namespace Run
open Session

variable {α β σ τ : Type} {l : Limits} {m m' : Machine}

-- What the names of the module were bound to.
def moduleBindings (m : Machine) : List (String × Value) :=
  m.bindings.toList.filterMap fun (scope, pair) => if scope = moduleScope then some pair else none

-- The functions that were defined in the module, as the bindings of their names.
def moduleDefinitions (h : Heap) : List (String × Value) :=
  (List.range h.closures.size).filterMap fun i =>
    if (h.closureAt i).scope = moduleScope then some ((h.closureAt i).name, .function i) else none

structure Recorded (m : Machine) : Prop where
  scopes : moduleScope < m.heap.frames.size
  names : m.heap.frameAt moduleScope = Frame.empty.binds (moduleBindings m)
  definitions : (moduleDefinitions m.heap).Sublist (moduleBindings m)

theorem Recorded.frame (recorded : Recorded m) (scopes : m.heap.frames.size ≤ m'.heap.frames.size)
    (names : m'.heap.frameAt moduleScope = m.heap.frameAt moduleScope)
    (closures : m'.heap.closures = m.heap.closures) (bindings : m'.bindings = m.bindings) :
    Recorded m' := by
  have record : moduleBindings m' = moduleBindings m := by rw [moduleBindings, bindings, moduleBindings]
  refine ⟨Nat.lt_of_lt_of_le recorded.scopes scopes, ?_, ?_⟩
  · rw [names, recorded.names, record]
  · have definitions := recorded.definitions
    simp only [moduleDefinitions, Heap.closureAt, closures, record] at definitions ⊢
    exact definitions

theorem Recorded.agrees (recorded : Recorded m) (agrees : m.heap.Agrees m'.heap)
    (bindings : m'.bindings = m.bindings) : Recorded m' := by
  refine recorded.frame ?_ ?_ agrees.closures bindings
  · rw [agrees.frames]
  · rw [Heap.frameAt, agrees.frames, Heap.frameAt]

theorem moduleBindings_bind (m : Machine) (scope : Nat) (name : String) (v : Value) :
    moduleBindings (m.bind scope name v) =
      if scope = moduleScope then moduleBindings m ++ [(name, v)] else moduleBindings m := by
  simp only [moduleBindings, Machine.bind, Array.toList_push, List.filterMap_append]
  split
  · rename_i top
    simp [top]
  · rename_i inner
    simp [inner]

theorem frameAt_bind (h : Heap) (scope : Nat) (name : String) (v : Value)
    (inside : moduleScope < h.frames.size) :
    (h.bind scope name v).frameAt moduleScope =
      if scope = moduleScope then (h.frameAt moduleScope).bind name v else h.frameAt moduleScope := by
  simp only [Heap.bind, Heap.frameAt, Array.getElem?_modify]
  split
  · simp [Array.getElem?_eq_getElem inside]
  · rfl

theorem recorded_bind (recorded : Recorded m) (scope : Nat) (name : String) (v : Value) :
    Recorded (m.bind scope name v) := by
  refine ⟨?_, ?_, ?_⟩
  · simp only [Machine.bind, Heap.bind, Array.size_modify]
    exact recorded.scopes
  · rw [moduleBindings_bind, Machine.bind, frameAt_bind _ _ _ _ recorded.scopes, recorded.names]
    split
    · exact (Frame.binds_concat (name, v)).symm
    · rfl
  · rw [moduleBindings_bind]
    split
    · exact recorded.definitions.trans (List.sublist_append_left _ _)
    · exact recorded.definitions

theorem moduleDefinitions_newClosure (h : Heap) (c : Closure) :
    moduleDefinitions (h.newClosure c).2 = moduleDefinitions h ++
      if c.scope = moduleScope then [(c.name, .function h.closures.size)] else [] := by
  have old : ∀ i ∈ List.range h.closures.size, (h.newClosure c).2.closureAt i = h.closureAt i := by
    intro i inside
    have other : i ≠ h.closures.size := Nat.ne_of_lt (List.mem_range.mp inside)
    simp [Heap.newClosure, Heap.closureAt, Array.getElem?_push, other]
  have new : (h.newClosure c).2.closureAt h.closures.size = c := by
    simp [Heap.newClosure, Heap.closureAt]
  have size : (h.newClosure c).2.closures.size = h.closures.size + 1 := Array.size_push _
  rw [moduleDefinitions, size, List.range_succ, List.filterMap_append]
  congr 1
  · exact List.filterMap_congr fun i inside => by rw [old i inside]
  · rw [List.filterMap_cons, new, List.filterMap_nil]
    by_cases top : c.scope = moduleScope
    · rw [if_pos top, if_pos top]
    · rw [if_neg top, if_neg top]

-- A definition binds the name of its function at once.
theorem recorded_define (recorded : Recorded m) (c : Closure) :
    Recorded (({ m with heap := (m.heap.newClosure c).2 } : Machine).bind c.scope c.name
      (.function m.heap.closures.size)) := by
  refine ⟨?_, ?_, ?_⟩
  · simp only [Machine.bind, Heap.bind, Heap.newClosure, Array.size_modify]
    exact recorded.scopes
  · have names := (recorded_bind recorded c.scope c.name (.function m.heap.closures.size)).names
    exact names
  · rw [moduleBindings_bind]
    change (moduleDefinitions (m.heap.newClosure c).2).Sublist _
    rw [moduleDefinitions_newClosure]
    split
    · exact recorded.definitions.append (.refl _)
    · rw [List.append_nil]
      exact recorded.definitions

-- Whatever a computation ends with, the record is right.
def Records (l : Limits) (x : Run α) : Prop := ∀ m, Recorded m → Recorded (last (x l m))

theorem records_step {x : Run α} {f : α → Run β} (first : Records l x)
    (rest : ∀ a, Records l (f a)) : Records l (x >>= f) := by
  intro m recorded
  have one := first m recorded
  rw [run_bind]
  cases ended : x l m with
  | error e mid =>
    rw [ended] at one
    exact one
  | ok a mid =>
    rw [ended] at one
    exact rest a mid one

-- Nothing is bound, defined or opened.
theorem records_idle {x : Run α} (heap : ∀ m, (last (x l m)).heap = m.heap)
    (bindings : ∀ m, (last (x l m)).bindings = m.bindings) : Records l x := by
  intro m recorded
  exact recorded.agrees (heap m ▸ ⟨rfl, rfl⟩) (bindings m)

theorem Still.records {x : Run α} (still : Still l x) : Records l x :=
  records_idle (fun m => congrArg Machine.heap (still m)) fun m => congrArg Machine.bindings (still m)

theorem records_tick : Records l tick := by
  intro m recorded
  rw [last_tick]
  exact recorded.agrees ⟨rfl, rfl⟩ rfl

theorem records_emit (made : Made) : Records l (emit made) := by
  intro m recorded
  rw [run_emit]
  split
  · exact recorded.agrees ⟨rfl, rfl⟩ rfl
  · split
    · exact recorded.agrees ⟨rfl, rfl⟩ rfl
    · exact recorded

theorem records_loop {probe : σ → Run (τ ⊕ α)} {body : τ → Run (σ ⊕ α)}
    (probes : ∀ s, Records l (probe s)) (bodies : ∀ r, Records l (body r)) (s : σ) :
    Records l (loop probe body s) :=
  loop_keeps (P := fun _ x => Records l x) (fun _ _ _ => id) records_step records_tick
    (records_idle (fun _ => rfl) fun _ => rfl) (fun _ => id) (fun _ _ => id) probes bodies s

theorem recorded_leaving {given stopped : Machine → Machine} {r : EStateM.Result Fault Machine α}
    (recorded : Recorded (last r)) (gave : ∀ m, Recorded m → Recorded (given m))
    (stops : ∀ m, Recorded m → Recorded (stopped m)) : Recorded (last (leaving given stopped r)) := by
  cases r with
  | ok a m => exact gave m recorded
  | error e m => exact stops m recorded

-- A new scope is not that of the module.
theorem recorded_newFrame (recorded : Recorded m) (f : Frame) :
    Recorded { m with heap := (m.heap.newFrame f).2 } := by
  refine recorded.frame ?_ ?_ rfl rfl
  · simp only [Heap.newFrame, Array.size_push]
    exact Nat.le_succ _
  · have other : moduleScope ≠ m.heap.frames.size := Nat.ne_of_lt recorded.scopes
    simp only [Heap.newFrame, Heap.frameAt, Array.getElem?_push, other, if_false]

theorem records_composed {x : Run α} (composed : Composed (.free True) x) : Records l x := by
  induction composed with
  | value | stop | look | enter => exact records_idle (fun _ => rfl) fun _ => rfl
  | step _ _ first rest => exact records_step first rest
  | inspect _ rest =>
    exact records_step (records_idle (fun _ => rfl) fun _ => rfl) fun c => rest c fun _ _ => trivial
  | guarded => exact (still_guarded _).records
  | change keeps => exact fun m recorded => recorded.agrees (keeps m.heap) rfl
  | allocate keeps => exact fun m recorded => recorded.agrees (keeps m.heap) rfl
  | define => exact fun m recorded => recorded_define recorded _
  | @opened _ f _ _ _ rests =>
    exact records_step (fun m recorded => recorded_newFrame recorded f) fun i => rests i trivial
  | bind => exact fun m recorded => recorded_bind recorded _ _ _
  | tick => exact records_tick
  | checkTime => exact still_checkTime.records
  | checkDepth => exact still_checkDepth.records
  | emit made => exact records_emit made
  | loop s _ _ probes bodies => exact records_loop probes bodies s
  | called _ inner =>
    refine records_step still_checkDepth.records fun _ m recorded => ?_
    rw [run_deeper]
    refine recorded_leaving (inner m.deepened (recorded.agrees ⟨rfl, rfl⟩ rfl)) ?_ ?_
    · exact fun _ deeper => deeper.agrees ⟨rfl, rfl⟩ rfl
    · exact fun _ deeper => deeper.agrees ⟨rfl, rfl⟩ rfl
  | undoing keeps _ _ inner =>
    intro m recorded
    rw [run_undoing]
    refine recorded_leaving (inner m recorded) (fun _ => id) ?_
    exact fun m' stopped => stopped.agrees (keeps m'.heap) rfl

end Run

def Value.function? : Value → Option Nat
  | .function i => some i
  | _ => Option.none

namespace Session
open Run

variable {p : Script.Program} {l : Limits} {s : Session}

def bindings (s : Session) : List (String × Value) := moduleBindings s.machine

-- The function comes from a definition that was carried out in the module.
def OfModule (s : Session) (i : Nat) : Prop :=
  i < s.machine.heap.closures.size ∧ (s.machine.heap.closureAt i).scope = moduleScope

instance (s : Session) (i : Nat) : Decidable (s.OfModule i) :=
  inferInstanceAs (Decidable (_ ∧ _))

-- The functions of the module that names are left with, in the order of their definitions.
def declared (s : Session) : List Nat :=
  (List.range s.machine.heap.closures.size).filter fun i => s.OfModule i ∧ i ∈ s.functions

theorem started_recorded (ran : start p l = .ok s) : Recorded s.machine := by
  have fresh : Recorded ({} : Machine) := ⟨by decide, rfl, List.nil_sublist _⟩
  have recorded := records_composed (l := l) (composed_runModule p) {} fresh
  obtain ⟨-, flow, ended⟩ := start_ran ran
  rw [ended] at recorded
  exact recorded

theorem functions_globals (s : Session) :
    s.functions = s.globals.filterMap fun pair => pair.2.function? := by
  refine List.filterMap_congr fun pair _ => ?_
  obtain ⟨name, v⟩ := pair
  cases v with
  | _ => rfl

theorem mem_functions {i : Nat} : i ∈ s.functions ↔ ∃ name, (name, .function i) ∈ s.globals := by
  rw [functions_globals, List.mem_filterMap]
  constructor
  · rintro ⟨⟨name, v⟩, bound, given⟩
    cases v with
    | function j =>
      cases given
      exact ⟨name, bound⟩
    | _ => cases given
  · rintro ⟨name, bound⟩
    exact ⟨_, bound, rfl⟩

theorem mem_declared {i : Nat} : i ∈ s.declared ↔ s.OfModule i ∧ i ∈ s.functions := by
  rw [declared, List.mem_filter, List.mem_range, decide_eq_true_iff]
  exact and_iff_right_of_imp fun both => both.1.1

-- The functions are listed in the order of their definitions, each once, if they come in that order.
theorem functions_declared :
    s.functions = s.declared ↔ s.functions.Pairwise (· < ·) ∧ ∀ i ∈ s.functions, s.OfModule i := by
  have ascending : s.declared.Pairwise (· < ·) := List.pairwise_lt_range.filter _
  constructor
  · intro same
    refine ⟨same ▸ ascending, fun i listed => ?_⟩
    rw [same] at listed
    exact (mem_declared.mp listed).1
  · rintro ⟨sorted, all⟩
    refine sorted.eq_of_mem_iff ascending fun i => ?_
    rw [mem_declared]
    exact ⟨fun listed => ⟨all i listed, listed⟩, And.right⟩

-- Every name that is left with a function was bound only once, by the definition of the function.
def DefinedOnce (s : Session) : Prop :=
  ∀ name i, (name, .function i) ∈ s.globals →
    s.OfModule i ∧ s.functionName i = name ∧ (s.bindings.map (·.1)).count name = 1

-- The name is left with a function.
def holds (s : Session) (name : String) : Bool := (s.function? name).isSome

theorem holds_iff {name : String} :
    s.holds name = true ↔ ∃ i, s.globals.lookup name = some (.function i) := by
  unfold holds Session.function?
  split
  · rename_i i bound
    simp [bound]
  · rename_i other
    simpa using other

section
variable (recorded : Recorded s.machine)
include recorded

theorem globals_binds : s.globals = (Frame.empty.binds s.bindings).vars.toList := by
  rw [globals, recorded.names, bindings]

theorem names_globals : s.globals.map (·.1) = (s.bindings.map (·.1)).eraseDups := by
  rw [globals_binds recorded]
  exact Frame.names_binds

theorem lookup_globals (name : String) : s.globals.lookup name = s.bindings.reverse.lookup name := by
  rw [globals_binds recorded]
  exact Frame.lookup_binds

theorem nodup_globals : (s.globals.map (·.1)).Nodup := by
  rw [globals_binds recorded]
  exact Frame.nodup_binds

-- Name by name, in the order in which they were bound first: the function that the name is left with.
theorem functions_names :
    s.functions = (s.bindings.map (·.1)).eraseDups.filterMap fun name =>
      (s.bindings.reverse.lookup name).bind Value.function? := by
  rw [functions_globals, ← names_globals recorded, List.filterMap_map]
  refine List.filterMap_congr fun pair bound => ?_
  obtain ⟨name, v⟩ := pair
  have left := (Frame.lookup_iff (nodup_globals recorded)).mpr bound
  rw [Function.comp_apply, ← lookup_globals recorded, left]
  rfl

theorem mem_globals {name : String} {i : Nat} :
    (name, .function i) ∈ s.globals ↔ s.globals.lookup name = some (.function i) :=
  (Frame.lookup_iff (nodup_globals recorded)).symm

theorem functions_held :
    s.functions = (s.globals.filter (s.holds ·.1)).filterMap fun pair => pair.2.function? := by
  rw [functions_globals, List.filterMap_filter]
  refine List.filterMap_congr fun pair bound => ?_
  obtain ⟨name, v⟩ := pair
  split
  · rfl
  · rename_i free
    cases v with
    | function i => exact absurd (holds_iff.mpr ⟨i, (mem_globals recorded).mp bound⟩) free
    | _ => rfl

-- The definitions of the names that are left with a function are all that these were bound to.
theorem globals_once (once : s.DefinedOnce) :
    s.globals.filter (s.holds ·.1) = (moduleDefinitions s.machine.heap).filter (s.holds ·.1) := by
  have left : s.globals.filter (s.holds ·.1) = s.bindings.filter (s.holds ·.1) := by
    rw [globals_binds recorded]
    refine Frame.filter_binds fun name held => ?_
    obtain ⟨i, bound⟩ := holds_iff.mp held
    exact Nat.le_of_eq (once name i ((mem_globals recorded).mpr bound)).2.2
  have defined := recorded.definitions.filter (s.holds ·.1)
  refine left.trans (defined.eq_of_length_le ?_).symm
  rw [← bindings, ← left]
  have distinct : (s.globals.filter (s.holds ·.1)).Nodup :=
    (List.Nodup.of_map _ (nodup_globals recorded)).filter _
  refine (List.subperm_of_subset distinct fun pair inside => ?_).length_le
  obtain ⟨bound, held⟩ := List.mem_filter.mp inside
  obtain ⟨name, v⟩ := pair
  obtain ⟨i, function⟩ := holds_iff.mp held
  have same := (Frame.lookup_iff (nodup_globals recorded)).mpr bound
  cases same.symm.trans function
  obtain ⟨⟨there, top⟩, named, -⟩ := once name i bound
  refine List.mem_filter.mpr ⟨List.mem_filterMap.mpr ⟨i, List.mem_range.mpr there, ?_⟩, held⟩
  rw [if_pos top]
  exact congrArg (fun name => some (name, Value.function i)) named

theorem functions_once (once : s.DefinedOnce) : s.functions = s.declared := by
  refine functions_declared.mpr ⟨?_, fun i listed => ?_⟩
  · -- Definitions come in the order of their functions, and a part of them does too.
    have ascending : ((moduleDefinitions s.machine.heap).filterMap (·.2.function?)).Pairwise (· < ·) := by
      rw [moduleDefinitions, List.filterMap_filterMap, List.pairwise_filterMap]
      refine List.pairwise_lt_range.imp fun {i j} less i' here j' there => ?_
      split at here
      · split at there
        · cases here
          cases there
          exact less
        · cases there
      · cases here
    rw [functions_held recorded, globals_once recorded once]
    exact ascending.sublist (List.filter_sublist.filterMap _)
  · obtain ⟨name, bound⟩ := mem_functions.mp listed
    exact (once name i bound).1

end

-- The functions of a session that has started, and the one that is called where none has the name that
-- is asked for. They come in the order in which their names were bound first, by whatever statement.
theorem functions_listed (p : Script.Program) (l : Limits) (s : Session) (started : start p l = .ok s) :
    s.functions = (s.bindings.map (·.1)).eraseDups.filterMap (fun name =>
      (s.bindings.reverse.lookup name).bind Value.function?) ∧
    (moduleDefinitions s.machine.heap).Sublist s.bindings ∧
    (s.functions = s.declared ↔ s.functions.Pairwise (· < ·) ∧ ∀ i ∈ s.functions, s.OfModule i) ∧
    (s.DefinedOnce → s.functions = s.declared) ∧
    ∀ ch : Challenge, s.function? ch.functionName = none →
      Judge.function? s ch = (s.bindings.map (·.1)).eraseDups.findSome? (fun name =>
        (s.bindings.reverse.lookup name).bind Value.function?) ∧
      (s.DefinedOnce → Judge.function? s ch = s.declared.head?) := by
  have recorded := started_recorded started
  have names := functions_names recorded
  refine ⟨names, recorded.definitions, functions_declared, functions_once recorded, ?_⟩
  intro ch absent
  have first : Judge.function? s ch = s.functions.head? := by
    unfold Judge.function?
    rw [absent]
  refine ⟨?_, fun once => ?_⟩
  · rw [first, names, List.head?_filterMap]
  · rw [first, functions_once recorded once]

-- Names of variables and functions, each bound once.
def orderly : Script.Program :=
  ⟨[.assign [.name "total" 1] (.const (.int 0)),
    .funcDef "g" [] [] [.giveBack (some (.const (.int 1))) 3] true false 2,
    .funcDef "f" [] [] [.giveBack (some (.call (.name "g" 5) [] [] 5)) 5] true false 4], rfl⟩

theorem orderly_listed :
    ∃ s, start orderly {} = .ok s ∧ s.functions = [0, 1] ∧ s.functions = s.declared := by
  have lists : (start orderly {}).toOption.map (fun s =>
      (s.functions, decide (∀ i ∈ s.functions, s.OfModule i))) = some ([0, 1], true) := by
    decide +kernel
  obtain ⟨s, given, same⟩ := Option.map_eq_some_iff.mp lists
  obtain ⟨listed, defined⟩ := Prod.mk.inj same
  have started := toOption_some given
  obtain ⟨-, -, inOrder, -⟩ := functions_listed orderly {} s started
  refine ⟨s, started, listed, inOrder.mpr ⟨?_, of_decide_eq_true defined⟩⟩
  rw [listed]
  decide

-- A name is bound to a number before its function is defined, and another function has two names.
def displaced : Script.Program :=
  ⟨[.assign [.name "f" 1] (.const (.int 1)),
    .funcDef "g" [] [] [.giveBack (some (.const (.int 1))) 3] true false 2,
    .funcDef "f" [] [] [.giveBack (some (.const (.int 2))) 5] true false 4,
    .assign [.name "h" 6] (.name "g" 6)], rfl⟩

theorem displaced_listed :
    ∃ s, start displaced {} = .ok s ∧ s.functions = [1, 0, 0] ∧ s.declared = [0, 1] ∧
      ∀ ch : Challenge, ch.functionName = "solve" → Judge.function? s ch = some 1 := by
  have lists : (start displaced {}).toOption.map (fun s =>
      (s.functions, s.declared, s.function? "solve")) = some ([1, 0, 0], [0, 1], none) := by
    decide +kernel
  obtain ⟨s, given, same⟩ := Option.map_eq_some_iff.mp lists
  obtain ⟨listed, rest⟩ := Prod.mk.inj same
  obtain ⟨declared, absent⟩ := Prod.mk.inj rest
  refine ⟨s, toOption_some given, listed, declared, fun ch named => ?_⟩
  simp only [Judge.function?, named, absent, listed, List.head?_cons]

end Session
end ScriptArena
