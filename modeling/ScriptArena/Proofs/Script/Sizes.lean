import ScriptArena.Proofs.Script.Occurrence
import ScriptArena.Script.Program

namespace ScriptArena.Script

mutual

def Expr.nodes : Expr → Nat
  | .const _ | .name .. | .unsupported .. => 1
  | .list items | .tuple items | .allOf items | .anyOf items | .template items => 1 + nodesOfAll items
  | .dict entries _ => 1 + nodesOfEntries entries
  | .binary left _ right => 1 + (left.nodes + right.nodes)
  | .unary _ operand => 1 + operand.nodes
  | .compare left links => 1 + (left.nodes + nodesOfLinks links)
  | .conditional test body orelse => 1 + (test.nodes + (body.nodes + orelse.nodes))
  | .call callee args keywords _ => 1 + (callee.nodes + (nodesOfAll args + nodesOfKeywords keywords))
  | .attribute value _ _ => 1 + value.nodes
  | .subscript container key => 1 + (container.nodes + key.nodes)
  | .slice lower upper step _ => 1 + (nodesOfBound lower + (nodesOfBound upper + nodesOfBound step))
  | .listComp element generators => 1 + nodesOfGenerators element.nodes generators
  | .field value _ spec => 1 + (value.nodes + nodesOfBound spec)

def nodesOfAll : List Expr → Nat
  | [] => 0
  | e :: rest => e.nodes + nodesOfAll rest

def nodesOfBound : Option Expr → Nat
  | none => 0
  | some e => e.nodes

def nodesOfEntries : List Entry → Nat
  | [] => 0
  | .pair key value :: rest => key.nodes + (value.nodes + nodesOfEntries rest)
  | .spread value :: rest => value.nodes + nodesOfEntries rest

def nodesOfLinks : List Link → Nat
  | [] => 0
  | .mk _ right :: rest => right.nodes + nodesOfLinks rest

def nodesOfKeywords : List Keyword → Nat
  | [] => 0
  | .named _ value :: rest | .spread value :: rest => value.nodes + nodesOfKeywords rest

-- Clauses are nested, and the element stands in the innermost one.
def nodesOfGenerators (element : Nat) : List Generator → Nat
  | [] => element
  | .mk target iter conditions _ :: rest =>
    iter.nodes + (target.nodes + (nodesOfAll conditions + nodesOfGenerators element rest))

end

mutual

def Stmt.nodes : Stmt → Nat
  | .funcDef _ _ defaults body .. => 1 + (nodesOfAll defaults + nodesOfBlock body)
  | .giveBack value _ => 1 + nodesOfBound value
  | .pass | .leave _ | .next _ | .unsupported .. => 1
  | .expr e => 1 + e.nodes
  | .assign targets value => 1 + (value.nodes + nodesOfAll targets)
  | .augAssign target _ value _ => 1 + (value.nodes + target.nodes)
  | .branch test body orelse | .whileLoop test body orelse =>
    1 + (test.nodes + (nodesOfBlock body + nodesOfBlock orelse))
  | .forLoop target iter body orelse =>
    1 + (iter.nodes + (target.nodes + (nodesOfBlock body + nodesOfBlock orelse)))

def nodesOfBlock : List Stmt → Nat
  | [] => 0
  | s :: rest => s.nodes + nodesOfBlock rest

end

-- The module counts as a node.
def Program.nodes (p : Program) : Nat := 1 + nodesOfBlock p.body

theorem nodes_mem {body : List Stmt} {s : Stmt} (member : s ∈ body) : s.nodes ≤ nodesOfBlock body := by
  induction body with
  | nil => cases member
  | cons first rest ih =>
    rw [nodesOfBlock]
    rcases List.mem_cons.mp member with rfl | later
    · omega
    · have smaller := ih later
      omega

theorem nodes_inner {around : Around} {s : Stmt} {part : Around × Stmt}
    (member : part ∈ s.inner around) : part.2.nodes ≤ s.nodes := by
  have block : ∀ around' body, part ∈ body.map ((around', ·) : Stmt → Around × Stmt) →
      part.2.nodes ≤ nodesOfBlock body := by
    intro around' body listed
    obtain ⟨s, inside, rfl⟩ := List.mem_map.mp listed
    exact nodes_mem inside
  cases s with
  | funcDef name params defaults body plain decorated line =>
    have smaller := block _ _ member
    simp only [Stmt.nodes]
    omega
  | branch test body orelse =>
    simp only [Stmt.inner, List.map_append] at member
    simp only [Stmt.nodes]
    rcases List.mem_append.mp member with inBody | inElse
    · have smaller := block _ _ inBody
      omega
    · have smaller := block _ _ inElse
      omega
  | whileLoop test body orelse | forLoop target iter body orelse =>
    simp only [Stmt.nodes]
    rcases List.mem_append.mp member with inBody | inElse
    · have smaller := block _ _ inBody
      omega
    · have smaller := block _ _ inElse
      omega
  | _ => cases member

end ScriptArena.Script
