import ConfigScope.Ty.Basic

/-!
# Equality of types

Types are compared by structure: two classes are the same only if all their
members agree, whatever their names.
-/

namespace ConfigScope

mutual

def Ty.same : Ty → Ty → Bool
  | .scalar a, .scalar b => a == b
  | .object a, .object b => a.same b
  | .null, .null => true
  | .unit, .unit => true
  | _, _ => false
termination_by structural a => a

def TypeRef.same : TypeRef → TypeRef → Bool
  | .inline a, .inline b => a.same b
  | .named a, .named b => a == b
  | _, _ => false
termination_by structural a => a

def ClassDecl.same : ClassDecl → ClassDecl → Bool
  | ⟨n₁, s₁, p₁, f₁⟩, ⟨n₂, s₂, p₂, f₂⟩ =>
    n₁ == n₂ && s₁ == s₂ && sameProperties p₁ p₂ && sameFunctions f₁ f₂
termination_by structural a => a

def Property.same : Property → Property → Bool
  | ⟨n₁, t₁, r₁, d₁, c₁⟩, ⟨n₂, t₂, r₂, d₂, c₂⟩ =>
    n₁ == n₂ && r₁ == r₂ && d₁ == d₂ && c₁ == c₂ && t₁.same t₂
termination_by structural a => a

def sameProperties : List Property → List Property → Bool
  | [], [] => true
  | a :: as, b :: bs => a.same b && sameProperties as bs
  | _, _ => false
termination_by structural a => a

def Parameter.same : Parameter → Parameter → Bool
  | ⟨n₁, t₁⟩, ⟨n₂, t₂⟩ => n₁ == n₂ && t₁.same t₂
termination_by structural a => a

def sameParameters : List Parameter → List Parameter → Bool
  | [], [] => true
  | a :: as, b :: bs => a.same b && sameParameters as bs
  | _, _ => false
termination_by structural a => a

def Accessor.same : Accessor → Accessor → Bool
  | ⟨p₁, o₁⟩, ⟨p₂, o₂⟩ => p₁ == p₂ && o₁.same o₂
termination_by structural a => a

def Semantics.same : Semantics → Semantics → Bool
  | .builder a, .builder b => a.same b
  | .configure a, .configure b => a.same b
  | .add o₁ b₁, .add o₂ b₂ => b₁ == b₂ && o₁.same o₂
  | .pure a, .pure b => a.same b
  | _, _ => false
termination_by structural a => a

def MemberFunction.same : MemberFunction → MemberFunction → Bool
  | ⟨n₁, p₁, s₁, c₁⟩, ⟨n₂, p₂, s₂, c₂⟩ =>
    n₁ == n₂ && c₁ == c₂ && sameParameters p₁ p₂ && s₁.same s₂
termination_by structural a => a

def sameFunctions : List MemberFunction → List MemberFunction → Bool
  | [], [] => true
  | a :: as, b :: bs => a.same b && sameFunctions as bs
  | _, _ => false
termination_by structural a => a

end

mutual

theorem Ty.same_iff : (a b : Ty) → (a.same b = true ↔ a = b)
  | .scalar _, b => by cases b <;> simp [Ty.same]
  | .object a, .object b => by simp [Ty.same, ClassDecl.same_iff a b]
  | .object _, .scalar _ => by simp [Ty.same]
  | .object _, .null => by simp [Ty.same]
  | .object _, .unit => by simp [Ty.same]
  | .null, b => by cases b <;> simp [Ty.same]
  | .unit, b => by cases b <;> simp [Ty.same]

theorem TypeRef.same_iff : (a b : TypeRef) → (a.same b = true ↔ a = b)
  | .inline a, .inline b => by simp [TypeRef.same, Ty.same_iff a b]
  | .named _, .named _ => by simp [TypeRef.same]
  | .inline _, .named _ => by simp [TypeRef.same]
  | .named _, .inline _ => by simp [TypeRef.same]

theorem ClassDecl.same_iff : (a b : ClassDecl) → (a.same b = true ↔ a = b)
  | ⟨_, _, p₁, f₁⟩, ⟨_, _, p₂, f₂⟩ => by
    simp [ClassDecl.same, sameProperties_iff p₁ p₂, sameFunctions_iff f₁ f₂, and_assoc]

theorem Property.same_iff : (a b : Property) → (a.same b = true ↔ a = b)
  | ⟨_, t₁, _, _, _⟩, ⟨_, t₂, _, _, _⟩ => by
    simp [Property.same, TypeRef.same_iff t₁ t₂]; grind

theorem sameProperties_iff : (a b : List Property) → (sameProperties a b = true ↔ a = b)
  | [], [] => by simp [sameProperties]
  | a :: as, b :: bs => by simp [sameProperties, Property.same_iff a b, sameProperties_iff as bs]
  | [], _ :: _ => by simp [sameProperties]
  | _ :: _, [] => by simp [sameProperties]

theorem Parameter.same_iff : (a b : Parameter) → (a.same b = true ↔ a = b)
  | ⟨_, t₁⟩, ⟨_, t₂⟩ => by simp [Parameter.same, TypeRef.same_iff t₁ t₂]

theorem sameParameters_iff : (a b : List Parameter) → (sameParameters a b = true ↔ a = b)
  | [], [] => by simp [sameParameters]
  | a :: as, b :: bs => by simp [sameParameters, Parameter.same_iff a b, sameParameters_iff as bs]
  | [], _ :: _ => by simp [sameParameters]
  | _ :: _, [] => by simp [sameParameters]

theorem Accessor.same_iff : (a b : Accessor) → (a.same b = true ↔ a = b)
  | ⟨_, o₁⟩, ⟨_, o₂⟩ => by simp [Accessor.same, TypeRef.same_iff o₁ o₂]

theorem Semantics.same_iff : (a b : Semantics) → (a.same b = true ↔ a = b)
  | .builder a, .builder b => by simp [Semantics.same, TypeRef.same_iff a b]
  | .configure a, .configure b => by simp [Semantics.same, Accessor.same_iff a b]
  | .add a _, .add b _ => by simp [Semantics.same, TypeRef.same_iff a b, and_comm]
  | .pure a, .pure b => by simp [Semantics.same, TypeRef.same_iff a b]
  | .builder _, .configure _ => by simp [Semantics.same]
  | .builder _, .add _ _ => by simp [Semantics.same]
  | .builder _, .pure _ => by simp [Semantics.same]
  | .configure _, .builder _ => by simp [Semantics.same]
  | .configure _, .add _ _ => by simp [Semantics.same]
  | .configure _, .pure _ => by simp [Semantics.same]
  | .add _ _, .builder _ => by simp [Semantics.same]
  | .add _ _, .configure _ => by simp [Semantics.same]
  | .add _ _, .pure _ => by simp [Semantics.same]
  | .pure _, .builder _ => by simp [Semantics.same]
  | .pure _, .configure _ => by simp [Semantics.same]
  | .pure _, .add _ _ => by simp [Semantics.same]

theorem MemberFunction.same_iff : (a b : MemberFunction) → (a.same b = true ↔ a = b)
  | ⟨_, p₁, s₁, _⟩, ⟨_, p₂, s₂, _⟩ => by
    simp [MemberFunction.same, sameParameters_iff p₁ p₂, Semantics.same_iff s₁ s₂]; grind

theorem sameFunctions_iff : (a b : List MemberFunction) → (sameFunctions a b = true ↔ a = b)
  | [], [] => by simp [sameFunctions]
  | a :: as, b :: bs => by
    simp [sameFunctions, MemberFunction.same_iff a b, sameFunctions_iff as bs]
  | [], _ :: _ => by simp [sameFunctions]
  | _ :: _, [] => by simp [sameFunctions]

end

instance : DecidableEq Ty := fun a b => decidable_of_iff _ (Ty.same_iff a b)
instance : DecidableEq TypeRef := fun a b => decidable_of_iff _ (TypeRef.same_iff a b)
instance : DecidableEq ClassDecl := fun a b => decidable_of_iff _ (ClassDecl.same_iff a b)
instance : DecidableEq Property := fun a b => decidable_of_iff _ (Property.same_iff a b)
instance : DecidableEq Parameter := fun a b => decidable_of_iff _ (Parameter.same_iff a b)
instance : DecidableEq Accessor := fun a b => decidable_of_iff _ (Accessor.same_iff a b)
instance : DecidableEq Semantics := fun a b => decidable_of_iff _ (Semantics.same_iff a b)
instance : DecidableEq MemberFunction := fun a b => decidable_of_iff _ (MemberFunction.same_iff a b)

end ConfigScope
