import ConfigScope.Document.Basic
import Mathlib.Data.List.Count
import Mathlib.Data.List.Perm.Basic

/-!
# The nodes of a document

The nodes of a document are listed in the order in which they are resolved: an access or a call
after the parts it is made of, a call before its block. The tree is read off the list again: every
node is the child of one other node, but for the document itself (`Block.rooted`).
-/

namespace ConfigScope

/-- A node of a document. A statement that is an expression is the node of that expression. -/
inductive Node where
  | expr (expr : Expr)
  | statement (statement : Statement)
  | block (block : Block)

namespace Node

def span : Node → Span
  | expr e => e.span
  | statement s => s.span
  | block b => b.span

def children : Node → List Span
  | expr (.access access) => access.receiver.toList.map (·.span)
  | expr (.call call) =>
    call.receiver.toList.map (·.span) ++ call.arguments.map (·.span) ++
      call.block.toList.map (·.span)
  | expr _ => []
  | statement (.assign target value _) => [target.span, value.span]
  | statement (.val _ value _) | statement (.expr value) => [value.span]
  | block b => b.statements.map (·.span)

end Node

mutual

def Access.nodes : Access → List Node
  | ⟨receiver, name, span⟩ => receiverNodes receiver ++ [.expr (.access ⟨receiver, name, span⟩)]

def Expr.nodes : Expr → List Node
  | .literal value span => [.expr (.literal value span)]
  | .null span => [.expr (.null span)]
  | .this span => [.expr (.this span)]
  | .access access => access.nodes
  | .call call => call.nodes

/-- A call comes after its receiver and its arguments, and before its block. -/
def Call.nodes : Call → List Node
  | ⟨receiver, name, arguments, block, span⟩ =>
    receiverNodes receiver ++ argumentNodes arguments ++
      .expr (.call ⟨receiver, name, arguments, block, span⟩) :: blockNodes block

def receiverNodes : Option Expr → List Node
  | none => []
  | some receiver => receiver.nodes

def argumentNodes : List Expr → List Node
  | [] => []
  | argument :: rest => argument.nodes ++ argumentNodes rest

def blockNodes : Option Block → List Node
  | none => []
  | some block => block.nodes

def Statement.nodes : Statement → List Node
  | .assign target value span =>
    target.nodes ++ value.nodes ++ [.statement (.assign target value span)]
  | .val name value span => value.nodes ++ [.statement (.val name value span)]
  | .expr expr => expr.nodes

def statementNodes : List Statement → List Node
  | [] => []
  | statement :: rest => statement.nodes ++ statementNodes rest

def Block.nodes : Block → List Node
  | ⟨statements, span⟩ => .block ⟨statements, span⟩ :: statementNodes statements

end

/-! ## Roots and children -/

/-- Each of the nodes is a root or the child of one other node, and not both. -/
def Rooted (roots : List Span) (nodes : List Node) : Prop :=
  (nodes.map Node.span).Perm (roots ++ nodes.flatMap Node.children)

namespace Rooted

variable {roots₁ roots₂ : List Span} {nodes nodes₁ nodes₂ : List Node}

theorem nil : Rooted [] [] := List.Perm.nil

theorem append (h₁ : Rooted roots₁ nodes₁) (h₂ : Rooted roots₂ nodes₂) :
    Rooted (roots₁ ++ roots₂) (nodes₁ ++ nodes₂) := by
  refine List.perm_iff_count.mpr fun span => ?_
  have hcount₁ := h₁.count_eq span
  have hcount₂ := h₂.count_eq span
  simp only [List.map_append, List.flatMap_append, List.count_append] at hcount₁ hcount₂ ⊢
  omega

theorem above (node : Node) (h : Rooted node.children (nodes₁ ++ nodes₂)) :
    Rooted [node.span] (nodes₁ ++ node :: nodes₂) := by
  -- the children stop being roots, and are counted as children of the node instead
  refine List.perm_iff_count.mpr fun span => ?_
  have hcount := h.count_eq span
  simp only [List.map_append, List.map_cons, List.flatMap_append, List.flatMap_cons,
    List.count_append, List.count_cons, List.count_nil] at hcount ⊢
  omega

theorem before (node : Node) (h : Rooted node.children nodes) :
    Rooted [node.span] (node :: nodes) :=
  @above [] nodes node h

theorem after (node : Node) (h : Rooted node.children nodes) :
    Rooted [node.span] (nodes ++ [node]) :=
  above node (by rwa [List.append_nil])

end Rooted

mutual

theorem Access.rooted : (access : Access) → Rooted [access.span] access.nodes
  | ⟨receiver, name, span⟩ =>
    .after (.expr (.access ⟨receiver, name, span⟩)) (rooted_receiver receiver)

theorem Expr.rooted : (e : Expr) → Rooted [e.span] e.nodes
  | .literal value span => .before (.expr (.literal value span)) .nil
  | .null span => .before (.expr (.null span)) .nil
  | .this span => .before (.expr (.this span)) .nil
  | .access access => access.rooted
  | .call call => call.rooted

theorem Call.rooted : (call : Call) → Rooted [call.span] call.nodes
  | ⟨receiver, name, arguments, block, span⟩ =>
    .above (.expr (.call ⟨receiver, name, arguments, block, span⟩))
      (((rooted_receiver receiver).append (rooted_arguments arguments)).append (rooted_block block))

theorem rooted_receiver : (receiver : Option Expr) →
    Rooted (receiver.toList.map (·.span)) (receiverNodes receiver)
  | none => .nil
  | some receiver => receiver.rooted

theorem rooted_arguments : (arguments : List Expr) →
    Rooted (arguments.map (·.span)) (argumentNodes arguments)
  | [] => .nil
  | argument :: rest => argument.rooted.append (rooted_arguments rest)

theorem rooted_block : (block : Option Block) →
    Rooted (block.toList.map (·.span)) (blockNodes block)
  | none => .nil
  | some block => block.rooted

theorem Statement.rooted : (statement : Statement) → Rooted [statement.span] statement.nodes
  | .assign target value span =>
    .after (.statement (.assign target value span)) (target.rooted.append value.rooted)
  | .val name value span => .after (.statement (.val name value span)) value.rooted
  | .expr expr => expr.rooted

theorem rooted_statements : (statements : List Statement) →
    Rooted (statements.map (·.span)) (statementNodes statements)
  | [] => .nil
  | statement :: rest => statement.rooted.append (rooted_statements rest)

theorem Block.rooted : (block : Block) → Rooted [block.span] block.nodes
  | ⟨statements, span⟩ => .before (.block ⟨statements, span⟩) (rooted_statements statements)

end

end ConfigScope
