import ConfigScope.Origin.Basic
import ConfigScope.Sharing

/-!
# Equality of origins

Two origins are equal when they were made in the same way at the same place.

An origin may be used many times over in the making of another one. As a tree
such an origin grows with every use, while in memory it is held once. So
`decideSame`, which is what runs, asks first whether both origins are one and
the same value, at every step; its result is that of `same`. It looks at the
arguments of calls only once all else is equal, and a long chain of bindings
and builder calls without arguments is compared in a loop.
-/

namespace ConfigScope

mutual

def Origin.same : Origin → Origin → Bool
  | .constant v₁ s₁, .constant v₂ s₂ => v₁ == v₂ && s₁ == s₂
  | .external e₁ s₁, .external e₂ s₂ => e₁ == e₂ && s₁ == s₂
  | .memberCall r₁ f₁ a₁ i₁ s₁, .memberCall r₂ f₂ a₂ i₂ s₂ =>
    i₁ == i₂ && s₁ == s₂ && f₁ == f₂ && r₁.same r₂ && sameOrigins a₁ a₂
  | .topLevelCall f₁ a₁ i₁ s₁, .topLevelCall f₂ a₂ i₂ s₂ =>
    i₁ == i₂ && s₁ == s₂ && f₁ == f₂ && sameOrigins a₁ a₂
  | .property r₁ p₁ s₁, .property r₂ p₂ s₂ => s₁ == s₂ && p₁ == p₂ && r₁.same r₂
  | .defaultValue r₁ p₁ s₁, .defaultValue r₂ p₂ s₂ => s₁ == s₂ && p₁ == p₂ && r₁.same r₂
  | .top t₁ s₁, .top t₂ s₂ => s₁ == s₂ && t₁ == t₂
  | .binding n₁ v₁ s₁, .binding n₂ v₂ s₂ => n₁ == n₂ && s₁ == s₂ && v₁.same v₂
  | .null s₁, .null s₂ => s₁ == s₂
  | .configured r₁ f₁ i₁ a₁ s₁, .configured r₂ f₂ i₂ a₂ s₂ =>
    i₁ == i₂ && s₁ == s₂ && f₁ == f₂ && a₁ == a₂ && r₁.same r₂
  | .built r₁ f₁ a₁ i₁ s₁, .built r₂ f₂ a₂ i₂ s₂ =>
    i₁ == i₂ && s₁ == s₂ && f₁ == f₂ && r₁.same r₂ && sameOrigins a₁ a₂
  | _, _ => false

def sameOrigins : List Origin → List Origin → Bool
  | [], [] => true
  | a :: as, b :: bs => a.same b && sameOrigins as bs
  | _, _ => false

end

mutual

theorem Origin.same_iff (a b : Origin) : a.same b = true ↔ a = b := by
  match a with
  | .constant .. | .external .. | .top .. | .null .. =>
    cases b <;> simp [Origin.same, and_comm]
  | .memberCall r _ as _ _ =>
    cases b <;> simp [Origin.same]
    rename_i r' _ as' _ _
    rw [Origin.same_iff r r', sameOrigins_iff as as']; grind
  | .topLevelCall _ as _ _ =>
    cases b <;> simp [Origin.same]
    rename_i _ as' _ _
    rw [sameOrigins_iff as as']; grind
  | .property r _ _ =>
    cases b <;> simp [Origin.same]
    rename_i r' _ _
    rw [Origin.same_iff r r']; grind
  | .defaultValue r _ _ =>
    cases b <;> simp [Origin.same]
    rename_i r' _ _
    rw [Origin.same_iff r r']; grind
  | .binding _ v _ =>
    cases b <;> simp [Origin.same]
    rename_i _ v' _
    rw [Origin.same_iff v v']; grind
  | .configured r _ _ _ _ =>
    cases b <;> simp [Origin.same]
    rename_i r' _ _ _ _
    rw [Origin.same_iff r r']; grind
  | .built r _ as _ _ =>
    cases b <;> simp [Origin.same]
    rename_i r' _ as' _ _
    rw [Origin.same_iff r r', sameOrigins_iff as as']; grind
termination_by structural a

theorem sameOrigins_iff (as bs : List Origin) : sameOrigins as bs = true ↔ as = bs := by
  match as, bs with
  | [], [] => simp [sameOrigins]
  | a :: as, b :: bs => simp [sameOrigins, Origin.same_iff a b, sameOrigins_iff as bs]
  | [], _ :: _ => simp [sameOrigins]
  | _ :: _, [] => simp [sameOrigins]
termination_by structural as

end

abbrev Origin.Sameness (a b : Origin) := { r : Bool // r = a.same b }

/-- Compares two origins, unless they are held at the same place in memory. -/
@[inline] def Origin.unlessShared (a b : Origin) (k : Unit → Origin.Sameness a b) :
    Origin.Sameness a b :=
  ⟨withPtrEq a b (fun _ => (k ()).val) fun h => (k ()).property.trans ((Origin.same_iff a b).mpr h),
    (k ()).property⟩

/-- Joins the comparison of two receivers and that of the arguments `as` and `bs`, which is asked
for last and only if there are any. -/
@[macro_inline] def receiverFirst (as bs : List Origin) (receiver arguments : Bool) : Bool :=
  as.length == bs.length && bif as.isEmpty then receiver else receiver && arguments

theorem receiverFirst_sameOrigins (as bs : List Origin) (receiver : Bool) :
    receiverFirst as bs receiver (sameOrigins as bs) = (receiver && sameOrigins as bs) := by
  unfold receiverFirst
  by_cases h : as.length = bs.length
  · cases as with
    | nil => simp [List.length_eq_zero_iff.mp h.symm, sameOrigins]
    | cons a as => simp [h]
  · have differ : sameOrigins as bs = false :=
      Bool.eq_false_iff.mpr fun same => h ((sameOrigins_iff as bs).mp same ▸ rfl)
    simp [h, differ]

mutual

def Origin.decideSame (a b : Origin) : Origin.Sameness a b :=
  Origin.unlessShared a b fun _ =>
    match a, b with
    | .memberCall r₁ f₁ a₁ i₁ s₁, .memberCall r₂ f₂ a₂ i₂ s₂ =>
      ⟨i₁ == i₂ && s₁ == s₂ && sharedEq f₁ f₂
          && receiverFirst a₁ a₂ (r₁.decideSame r₂).val (decideSameAll a₁ a₂).val, by
        rw [(decideSameAll a₁ a₂).property, (r₁.decideSame r₂).property,
          receiverFirst_sameOrigins, sharedEq_eq_beq, ← Bool.and_assoc, Origin.same]⟩
    | .topLevelCall f₁ a₁ i₁ s₁, .topLevelCall f₂ a₂ i₂ s₂ =>
      ⟨i₁ == i₂ && s₁ == s₂ && sharedEq f₁ f₂
          && receiverFirst a₁ a₂ true (decideSameAll a₁ a₂).val, by
        rw [(decideSameAll a₁ a₂).property, receiverFirst_sameOrigins, sharedEq_eq_beq,
          Bool.true_and, Origin.same]⟩
    | .property r₁ p₁ s₁, .property r₂ p₂ s₂ =>
      ⟨s₁ == s₂ && sharedEq p₁ p₂ && (r₁.decideSame r₂).val, by
        rw [(r₁.decideSame r₂).property, sharedEq_eq_beq, Origin.same]⟩
    | .defaultValue r₁ p₁ s₁, .defaultValue r₂ p₂ s₂ =>
      ⟨s₁ == s₂ && sharedEq p₁ p₂ && (r₁.decideSame r₂).val, by
        rw [(r₁.decideSame r₂).property, sharedEq_eq_beq, Origin.same]⟩
    | .binding n₁ v₁ s₁, .binding n₂ v₂ s₂ =>
      ⟨n₁ == n₂ && s₁ == s₂ && (v₁.decideSame v₂).val, by
        rw [(v₁.decideSame v₂).property, Origin.same]⟩
    | .configured r₁ f₁ i₁ a₁ s₁, .configured r₂ f₂ i₂ a₂ s₂ =>
      ⟨i₁ == i₂ && s₁ == s₂ && sharedEq f₁ f₂ && sharedEq a₁ a₂ && (r₁.decideSame r₂).val, by
        rw [(r₁.decideSame r₂).property, sharedEq_eq_beq, sharedEq_eq_beq, Origin.same]⟩
    | .built r₁ f₁ a₁ i₁ s₁, .built r₂ f₂ a₂ i₂ s₂ =>
      ⟨i₁ == i₂ && s₁ == s₂ && sharedEq f₁ f₂
          && receiverFirst a₁ a₂ (r₁.decideSame r₂).val (decideSameAll a₁ a₂).val, by
        rw [(decideSameAll a₁ a₂).property, (r₁.decideSame r₂).property,
          receiverFirst_sameOrigins, sharedEq_eq_beq, ← Bool.and_assoc, Origin.same]⟩
    -- the others are made from no further origin
    | a, b => ⟨a.same b, rfl⟩
termination_by structural a

def decideSameAll (as bs : List Origin) : { r : Bool // r = sameOrigins as bs } :=
  match as, bs with
  | a :: as, b :: bs =>
    ⟨(a.decideSame b).val && (decideSameAll as bs).val, by
      rw [(a.decideSame b).property, (decideSameAll as bs).property, sameOrigins]⟩
  | as, bs => ⟨sameOrigins as bs, rfl⟩
termination_by structural as

end

instance : DecidableEq Origin := fun a b =>
  decidable_of_bool (a.decideSame b).val (by rw [(a.decideSame b).property, Origin.same_iff])

end ConfigScope
