import Mathlib.Logic.Relation
import ScriptArena.Script.Subset

namespace ScriptArena.Script

-- Only what is called may be a method, and only what stands in brackets may be a slice.
inductive Place where
  | operand | key | callee
deriving DecidableEq

abbrev Node := Place × Expr

def Generator.target : Generator → Expr
  | .mk target _ _ _ => target

def Generator.isAsync : Generator → Bool
  | .mk _ _ _ isAsync => isAsync

def Generator.parts : Generator → List Expr
  | .mk target iter conditions _ => target :: iter :: conditions

def operands (es : List Expr) : List Node := es.map (.operand, ·)

-- The parts of an expression, each at its place.
def Expr.parts : Expr → List Node
  | .const _ | .name .. | .unsupported .. => []
  | .list items | .tuple items | .allOf items | .anyOf items | .template items => operands items
  | .dict entries _ => operands (entries.filterMap Entry.key? ++ entries.map Entry.value)
  | .binary left _ right => operands [left, right]
  | .unary _ operand => operands [operand]
  | .compare left links => operands (left :: links.map Link.right)
  | .conditional test body orelse => operands [test, body, orelse]
  | .call callee args keywords _ =>
    (.callee, callee) :: operands (args ++ keywords.map Keyword.value)
  | .attribute value _ _ => operands [value]
  | .subscript container key => [(.operand, container), (.key, key)]
  | .slice lower upper step _ => operands (lower.toList ++ upper.toList ++ step.toList)
  | .listComp element generators => operands (element :: generators.flatMap Generator.parts)
  | .field value _ spec => operands (value :: spec.toList)

-- The one node is the other, or stands somewhere within it.
abbrev Within : Node → Node → Prop := Relation.ReflTransGen fun whole part => part ∈ whole.2.parts

-- What holds of everything within a whole holds of it and of everything within its parts.
theorem forall_within {α : Type} {isPart : α → α → Prop} (P : α → Prop) (whole : α) :
    (∀ node, Relation.ReflTransGen isPart whole node → P node) ↔
      P whole ∧ ∀ part, isPart whole part →
        ∀ node, Relation.ReflTransGen isPart part node → P node := by
  constructor
  · intro all
    refine ⟨all whole .refl, ?_⟩
    intro part member node within
    exact all node (.head member within)
  · rintro ⟨self, parts⟩ node within
    rcases within.cases_head with rfl | ⟨part, member, rest⟩
    · exact self
    · exact parts part member node rest

-- A target is a name, an item, or a tuple or list of targets.
inductive IsTarget : Expr → Prop where
  | name : IsTarget (.name word line)
  | item : IsTarget (.subscript container key)
  | tuple (all : ∀ e ∈ items, IsTarget e) : IsTarget (.tuple items)
  | list (all : ∀ e ∈ items, IsTarget e) : IsTarget (.list items)

-- A target that can be looked up before it is assigned to.
inductive IsPlainTarget : Expr → Prop where
  | name : IsPlainTarget (.name word line)
  | item : IsPlainTarget (.subscript container key)

-- The expressions of a statement, apart from the target of a `for` loop.
def Stmt.parts : Stmt → List Expr
  | .funcDef _ _ defaults .. => defaults
  | .giveBack value _ => value.toList
  | .expr e => [e]
  | .assign targets value => targets ++ [value]
  | .augAssign target _ value _ => [target, value]
  | .branch test _ _ | .whileLoop test _ _ => [test]
  | .forLoop _ iter _ _ => [iter]
  | .pass | .leave _ | .next _ | .unsupported .. => []

def Stmt.loopTarget? : Stmt → Option Expr
  | .forLoop target .. => some target
  | _ => none

-- The statements of a statement. Its own surroundings do not reach into a function.
def Stmt.inner (around : Around) : Stmt → List (Around × Stmt)
  | .funcDef _ _ _ body .. => body.map (⟨false, true⟩, ·)
  | .branch _ body orelse => (body ++ orelse).map (around, ·)
  | .whileLoop _ body orelse | .forLoop _ _ body orelse =>
    body.map ({ around with inLoop := true }, ·) ++ orelse.map (around, ·)
  | _ => []

abbrev StmtWithin : Around × Stmt → Around × Stmt → Prop :=
  Relation.ReflTransGen fun whole part => part ∈ whole.2.inner whole.1

-- A statement of a module, with what stands around it there.
def Module.Has (m : Module) (around : Around) (s : Stmt) : Prop :=
  ∃ top ∈ m, StmtWithin (⟨false, false⟩, top) (around, s)

end ScriptArena.Script
