import ConfigScope.Document.Basic

/-!
# Equality of documents

Two nodes are equal when they have the same shape and the same spans
throughout.
-/

namespace ConfigScope

mutual

def Access.same : Access → Access → Bool
  | ⟨none, n₁, s₁⟩, ⟨none, n₂, s₂⟩ => n₁ == n₂ && s₁ == s₂
  | ⟨some r₁, n₁, s₁⟩, ⟨some r₂, n₂, s₂⟩ => n₁ == n₂ && s₁ == s₂ && r₁.same r₂
  | _, _ => false
termination_by structural a => a

def Call.same : Call → Call → Bool
  | ⟨r₁, n₁, a₁, b₁, s₁⟩, ⟨r₂, n₂, a₂, b₂, s₂⟩ =>
    n₁ == n₂ && s₁ == s₂ && sameArguments a₁ a₂ && sameReceiver r₁ r₂ && sameBlock b₁ b₂
termination_by structural a => a

def sameReceiver : Option Expr → Option Expr → Bool
  | none, none => true
  | some a, some b => a.same b
  | _, _ => false
termination_by structural a => a

def sameArguments : List Expr → List Expr → Bool
  | [], [] => true
  | a :: as, b :: bs => a.same b && sameArguments as bs
  | _, _ => false
termination_by structural a => a

def sameBlock : Option Block → Option Block → Bool
  | none, none => true
  | some a, some b => a.same b
  | _, _ => false
termination_by structural a => a

def Expr.same : Expr → Expr → Bool
  | .literal v₁ s₁, .literal v₂ s₂ => v₁ == v₂ && s₁ == s₂
  | .null s₁, .null s₂ => s₁ == s₂
  | .this s₁, .this s₂ => s₁ == s₂
  | .access a, .access b => a.same b
  | .call a, .call b => a.same b
  | _, _ => false
termination_by structural a => a

def Statement.same : Statement → Statement → Bool
  | .assign t₁ v₁ s₁, .assign t₂ v₂ s₂ => s₁ == s₂ && t₁.same t₂ && v₁.same v₂
  | .val n₁ v₁ s₁, .val n₂ v₂ s₂ => n₁ == n₂ && s₁ == s₂ && v₁.same v₂
  | .expr a, .expr b => a.same b
  | _, _ => false
termination_by structural a => a

def sameStatements : List Statement → List Statement → Bool
  | [], [] => true
  | a :: as, b :: bs => a.same b && sameStatements as bs
  | _, _ => false
termination_by structural a => a

def Block.same : Block → Block → Bool
  | ⟨a, s₁⟩, ⟨b, s₂⟩ => s₁ == s₂ && sameStatements a b
termination_by structural a => a

end

mutual

theorem Access.same_iff : (a b : Access) → (a.same b = true ↔ a = b)
  | ⟨none, _, _⟩, ⟨none, _, _⟩ => by simp [Access.same]
  | ⟨some r₁, _, _⟩, ⟨some r₂, _, _⟩ => by
    simp [Access.same, Expr.same_iff r₁ r₂]; grind
  | ⟨none, _, _⟩, ⟨some _, _, _⟩ => by simp [Access.same]
  | ⟨some _, _, _⟩, ⟨none, _, _⟩ => by simp [Access.same]

theorem Call.same_iff : (a b : Call) → (a.same b = true ↔ a = b)
  | ⟨r₁, _, a₁, b₁, _⟩, ⟨r₂, _, a₂, b₂, _⟩ => by
    simp [Call.same, sameArguments_iff a₁ a₂, sameReceiver_iff r₁ r₂, sameBlock_iff b₁ b₂]; grind

theorem sameReceiver_iff : (a b : Option Expr) → (sameReceiver a b = true ↔ a = b)
  | none, none => by simp [sameReceiver]
  | some a, some b => by simp [sameReceiver, Expr.same_iff a b]
  | none, some _ => by simp [sameReceiver]
  | some _, none => by simp [sameReceiver]

theorem sameArguments_iff : (a b : List Expr) → (sameArguments a b = true ↔ a = b)
  | [], [] => by simp [sameArguments]
  | a :: as, b :: bs => by simp [sameArguments, Expr.same_iff a b, sameArguments_iff as bs]
  | [], _ :: _ => by simp [sameArguments]
  | _ :: _, [] => by simp [sameArguments]

theorem sameBlock_iff : (a b : Option Block) → (sameBlock a b = true ↔ a = b)
  | none, none => by simp [sameBlock]
  | some a, some b => by simp [sameBlock, Block.same_iff a b]
  | none, some _ => by simp [sameBlock]
  | some _, none => by simp [sameBlock]

theorem Expr.same_iff : (a b : Expr) → (a.same b = true ↔ a = b)
  | .literal .., b => by cases b <;> simp [Expr.same]
  | .null _, b => by cases b <;> simp [Expr.same]
  | .this _, b => by cases b <;> simp [Expr.same]
  | .access a, .access b => by simp [Expr.same, Access.same_iff a b]
  | .call a, .call b => by simp [Expr.same, Call.same_iff a b]
  | .access _, .literal .. => by simp [Expr.same]
  | .access _, .null _ => by simp [Expr.same]
  | .access _, .this _ => by simp [Expr.same]
  | .access _, .call _ => by simp [Expr.same]
  | .call _, .literal .. => by simp [Expr.same]
  | .call _, .null _ => by simp [Expr.same]
  | .call _, .this _ => by simp [Expr.same]
  | .call _, .access _ => by simp [Expr.same]

theorem Statement.same_iff : (a b : Statement) → (a.same b = true ↔ a = b)
  | .assign t₁ v₁ _, .assign t₂ v₂ _ => by
    simp [Statement.same, Access.same_iff t₁ t₂, Expr.same_iff v₁ v₂]; grind
  | .val _ v₁ _, .val _ v₂ _ => by simp [Statement.same, Expr.same_iff v₁ v₂]; grind
  | .expr a, .expr b => by simp [Statement.same, Expr.same_iff a b]
  | .assign .., .val .. => by simp [Statement.same]
  | .assign .., .expr _ => by simp [Statement.same]
  | .val .., .assign .. => by simp [Statement.same]
  | .val .., .expr _ => by simp [Statement.same]
  | .expr _, .assign .. => by simp [Statement.same]
  | .expr _, .val .. => by simp [Statement.same]

theorem sameStatements_iff : (a b : List Statement) → (sameStatements a b = true ↔ a = b)
  | [], [] => by simp [sameStatements]
  | a :: as, b :: bs => by simp [sameStatements, Statement.same_iff a b, sameStatements_iff as bs]
  | [], _ :: _ => by simp [sameStatements]
  | _ :: _, [] => by simp [sameStatements]

theorem Block.same_iff : (a b : Block) → (a.same b = true ↔ a = b)
  | ⟨a, _⟩, ⟨b, _⟩ => by simp [Block.same, sameStatements_iff a b]; grind

end

instance : DecidableEq Expr := fun a b => decidable_of_iff _ (Expr.same_iff a b)
instance : DecidableEq Statement := fun a b => decidable_of_iff _ (Statement.same_iff a b)
instance : DecidableEq Block := fun a b => decidable_of_iff _ (Block.same_iff a b)

end ConfigScope
