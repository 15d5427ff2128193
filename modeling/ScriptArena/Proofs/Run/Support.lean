import ScriptArena.Proofs.Run.Soundness
import ScriptArena.Proofs.Script.Acceptance
import ScriptArena.Run.Session

namespace ScriptArena

namespace Script

-- A node of a module at its place, within the target of a `for` loop or not.
def Module.HasNode (m : Module) (node : Node) : Prop :=
  ∃ around s e, m.Has around s ∧ (e ∈ s.parts ∨ s.loopTarget? = some e) ∧
    Within (.operand, e) node

inductive Module.Misses (m : Module) : Fault → Prop where
  | stmt (has : m.Has around s) (lacks : s.Lacks fault) : Module.Misses m fault
  | node (has : m.HasNode node) (lacks : Lacks node fault) : Module.Misses m fault

-- Slices stand only in brackets, as the whole of a key.
def Module.SlicesInBrackets (m : Module) : Prop :=
  ∀ around s, m.Has around s → ∀ e ∈ s.parts, ∀ place lower upper step line,
    Within (.operand, e) (place, .slice lower upper step line) → place = .key

def Module.LoopTargetsRuled (m : Module) : Prop :=
  ∀ around s target, m.Has around s → s.loopTarget? = some target →
    ∀ node, Within (.operand, target) node → ∀ fault, ¬ Lacks node fault

theorem covered_module (m : Module) :
    ∀ s ∈ m, StmtCovered m.Misses (⟨false, false⟩, s) := by
  rintro s member ⟨around, inner⟩ within
  have has : m.Has around inner := ⟨s, member, within⟩
  refine ⟨fun fault lacks => .stmt has lacks, ?_⟩
  intro e part node inside fault lacks
  exact .node ⟨around, inner, e, has, part, inside⟩ lacks

theorem foreign_unsupported {op : Operator} {name : String} (foreign : op.foreign? = some name) :
    op.supported = false := by
  cases op <;> first | rfl | cases foreign

-- A statement that is allowed where it stands has a rule.
theorem allowed_stmt {around : Around} {s : Stmt} (allowed : s.Allowed around) (fault : Fault) :
    ¬ s.Lacks fault := by
  intro lacks
  cases lacks with
  | construct => exact allowed
  | assign member other => exact other (allowed _ member)
  | augAssign other => exact other allowed.1
  | operator foreign => exact Bool.false_ne_true ((foreign_unsupported foreign).symm.trans allowed.2)
  | loop other => exact other allowed

-- Of the nodes that are allowed only slices may lack a rule, for want of their brackets.
theorem allowed_node {node : Node} {fault : Fault} (allowed : node.2.Allowed node.1)
    (lacks : Lacks node fault) :
    ∃ place lower upper step line, node = (place, .slice lower upper step line) ∧ place ≠ .key := by
  cases lacks with
  | method elsewhere => exact absurd allowed.1 elsewhere
  | slice elsewhere => exact ⟨_, _, _, _, _, rfl, elsewhere⟩
  | construct => exact allowed.elim
  | operator foreign =>
    exact absurd ((foreign_unsupported foreign).symm.trans allowed) Bool.false_ne_true
  | entry spread => exact absurd (allowed _ spread) nofun
  | target member other => exact absurd (allowed _ member).2 other

theorem lacks_accepted {m : Module} (accepted : m.check = .ok ()) :
    (∀ fault, ¬ m.Misses fault) ↔ m.SlicesInBrackets ∧ m.LoopTargetsRuled := by
  obtain ⟨supported, -⟩ := (check_iff m).mp accepted
  constructor
  · intro none
    refine ⟨?_, ?_⟩
    · intro around s has e member place lower upper step line within
      by_cases under : place = .key
      · exact under
      · exact absurd (.node ⟨around, s, e, has, .inl member, within⟩ (.slice under)) (none _)
    · intro around s target has isTarget node within fault lacks
      exact none fault (.node ⟨around, s, target, has, .inr isTarget, within⟩ lacks)
  · rintro ⟨brackets, targets⟩ fault lacks
    cases lacks with
    | stmt has lacks => exact allowed_stmt (supported _ _ has).1 fault lacks
    | node has lacks =>
      obtain ⟨around, s, e, has, member | isTarget, within⟩ := has
      · have allowed := (supported around s has).2 e member _ within
        obtain ⟨place, lower, upper, step, line, rfl, elsewhere⟩ := allowed_node allowed lacks
        exact elsewhere (brackets around s has e member place lower upper step line within)
      · exact targets around s e has isTarget _ within fault lacks

end Script

namespace Run

theorem entries_fail {r : Rules} {scope : Nat} {entries : List Script.Entry} {value : Script.Expr}
    (spread : Script.Entry.spread value ∈ entries) (d d' : Dict) (l : Limits) (m m' : Machine) :
    r.evalEntries scope entries d l m ≠ .ok d' m' := by
  intro ran
  induction entries generalizing d m with
  | nil => cases spread
  | cons entry rest ih =>
    cases entry with
    | spread value => cases ran
    | pair key value =>
      obtain ⟨k, _, _, ran⟩ := bind_ok ran
      obtain ⟨v, _, _, ran⟩ := bind_ok ran
      obtain ⟨k', mid, _, ran⟩ := bind_ok ran
      rcases List.mem_cons.mp spread with same | later
      · cases same
      · exact ih later _ mid ran

-- Where a rule is missing there is no value. Only a comprehension without items never gets to a
-- target that it could not assign to.
theorem no_value {node : Script.Node} {fault : Fault} (lacks : Script.Lacks node fault)
    (reached : fault ≠ .noTarget) (room scope : Nat) (l : Limits) (m : Machine) (v : Value)
    (m' : Machine) : (rules room).eval scope node.2 l m ≠ .ok v m' := by
  intro ran
  cases room with
  | zero => cases ran
  | succ room =>
    obtain ⟨_, _, _, ran⟩ := bind_ok ran
    cases lacks with
    | method | slice | construct => cases ran
    | operator foreign =>
      obtain ⟨a, _, _, ran⟩ := bind_ok ran
      obtain ⟨b, _, _, ran⟩ := bind_ok ran
      obtain ⟨_, mid, _, ran⟩ := bind_ok ran
      rw [foreign] at ran
      cases ran
    | entry spread =>
      obtain ⟨d, mid, ran, _⟩ := bind_ok ran
      exact entries_fail spread _ _ _ _ _ ran
    | target => exact reached rfl

end Run

namespace Session
open Run

-- The module body, or a call of some session, ends with the fault.
inductive Raises (p : Script.Program) : Fault → Prop where
  | starting (ran : start p l = .error e) : Raises p e
  | calling (reached : Reached p s) (ran : (s.call at_ args).1 = .error e) : Raises p e

variable {p : Script.Program}

-- Of the faults of missing rules, only those of nodes of the program.
def misses (p : Script.Program) : Licence :=
  ⟨p.body.Misses, Script.StmtCovered p.body.Misses, fun _ => True, True⟩

theorem admits_misses (p : Script.Program) : (misses p).Admits p where
  evaluates := trivial
  covered := id
  inner := fun covered member => covered.inner member
  scopes := fun _ => trivial
  body := Script.covered_module p.body

theorem raises_misses {fault : Fault} (raises : Raises p fault)
    (unsupported : fault.IsUnsupported) : p.body.Misses fault := by
  cases raises with
  | @starting l _ ran =>
    have safe := start_safe (admits_misses p) l
    unfold start at ran
    split at ran
    · cases ran
    · rename_i ended
      cases ran
      rw [ended] at safe
      exact safe.2 unsupported
  | @calling s at_ args _ reached ran =>
    have holds := reached_holds (admits_misses p) reached
    have safe := sound_call (admits_misses p).toSuits at_ args s.limits s.machine holds
    unfold Session.call at ran
    split at ran
    · cases ran
    · rename_i ended
      cases ran
      rw [ended] at safe
      exact safe.2 unsupported

-- A program whose slices stand in their brackets, and whose loop targets have rules, never misses
-- one, whatever it is asked for. Any other program has a node that misses one, and from such a node
-- comes every fault of that kind; what the node stands for has no value in any session.
theorem unsupported_exact (p : Script.Program) :
    (p.body.SlicesInBrackets ∧ p.body.LoopTargetsRuled →
        ∀ fault, Raises p fault → ¬ fault.IsUnsupported) ∧
      ((∀ fault, ¬ p.body.Misses fault) ↔ p.body.SlicesInBrackets ∧ p.body.LoopTargetsRuled) ∧
      (∀ fault, Raises p fault → fault.IsUnsupported → p.body.Misses fault) ∧
      ∀ node fault, Script.Lacks node fault → fault ≠ .noTarget → ∀ room scope l m v m',
        (Run.rules room).eval scope node.2 l m ≠ .ok v m' := by
  have ruledExactly := Script.lacks_accepted p.supported
  refine ⟨?_, ruledExactly, fun _ => raises_misses, fun _ _ => no_value⟩
  intro ruled fault raises unsupported
  exact ruledExactly.mpr ruled fault (raises_misses raises unsupported)

-- A slice beside another key is accepted, and there is no rule for it.
def slicedKey : Script.Program :=
  ⟨[.assign [.name "x" 1] (.dict [] 1),
    .assign [.name "y" 2] (.subscript (.name "x" 2)
      (.tuple [.slice (some (.const (.int 1))) (some (.const (.int 2))) none 2,
        .const (.int 3)]))], rfl⟩

theorem slicedKey_unsupported :
    Raises slicedKey (.noRule "Slice" (some 2)) ∧ (Fault.noRule "Slice" (some 2)).IsUnsupported := by
  have ends : (match start slicedKey {} with
      | .ok _ => none
      | .error e => some e) = some (.noRule "Slice" (some 2)) := by decide +kernel
  refine ⟨?_, trivial⟩
  cases ran : start slicedKey {} with
  | ok s =>
    rw [ran] at ends
    cases ends
  | error e =>
    rw [ran] at ends
    cases ends
    exact .starting ran

end Session
end ScriptArena
