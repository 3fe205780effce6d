import ConfigScope.Proofs.Progress

/-!
# What blocks are resolved on

The block of a call is resolved in a scope of its own. For a function that adds
an object, the receiver of that scope is the new object; for a member function
that accesses an object, it stands for the object that is accessed. In both cases
it has the type that the function is declared to configure.

A top-level function has no receiver to access an object on. The block of one that
is declared to access an object is resolved on the result of the call, which is a
unit, so the members of the object are not found in it (`exists_block_on_unit`).
Such functions are the only exception (`block_receiver_type`).
-/

namespace ConfigScope

def Semantics.configures? : Semantics → Option TypeRef
  | .configure accessor => some accessor.object
  | .add object _ => some object
  | .builder _ | .pure _ => none

namespace Callee

def semantics : Callee → Semantics
  | member _ function => function.semantics
  | topLevel function => function.semantics

def accessesFromTop : Callee → Bool
  | member _ _ => false
  | topLevel function =>
    match function.semantics with
    | .configure _ => true
    | .builder _ | .add _ _ | .pure _ => false

end Callee

namespace Resolver

variable {schema : Schema} {c c' : Context Findings}

/-- What is visited next is the block of a call, in a scope that was opened on an object. -/
def Opened (schema : Schema) (node : Call) (object : Origin) (next : List Visit) : Prop :=
  ∃ (block : Block) (c c' : Context Findings) (inside : List Visit), node.block = some block ∧
    inside <+: next ∧ Walk schema (.block block) (c.within (.new object :: c.scopes)) () c' inside

/-- An object is of the type that a function configures, or a unit if the function is to access it
from the top level. -/
def OfConfiguredType (schema : Schema) (callee : Callee) (object : Origin) : Prop :=
  ∃ ref type, callee.semantics.configures? = some ref ∧ object.type schema.typeOf = .ok type ∧
    if callee.accessesFromTop then type = .unit else schema.typeOf ref = .ok type

/-- If a call has its block resolved, the block is visited next, in a scope on an object of the type
that the function of the call configures. -/
def Visit.Configures (schema : Schema) (next : List Visit) : Visit → Prop
  | .call node _ (some callee) (some object) =>
    Opened schema node object next ∧ OfConfiguredType schema callee object
  | _ => True

def Configured (schema : Schema) : List Visit → Prop
  | [] => True
  | visit :: next => visit.Configures schema next ∧ Configured schema next

theorem Visit.Configures.append {visit : Visit} {next : List Visit}
    (h : visit.Configures schema next) (more : List Visit) :
    visit.Configures schema (next ++ more) := by
  unfold Visit.Configures at h ⊢
  split at h
  · obtain ⟨⟨block, c, c', inside, hblock, hinside, hwalk⟩, htype⟩ := h
    have hinside := hinside.trans (List.prefix_append next more)
    exact ⟨⟨block, c, c', inside, hblock, hinside, hwalk⟩, htype⟩
  · trivial

theorem Configured.append {visits more : List Visit} (h : Configured schema visits)
    (hmore : Configured schema more) : Configured schema (visits ++ more) := by
  induction visits with
  | nil => exact hmore
  | cons visit next ih => exact ⟨h.1.append more, ih h.2⟩

theorem Configured.of_suffix {visits next : List Visit} {visit : Visit}
    (h : Configured schema visits) (hsuffix : visit :: next <:+ visits) :
    visit.Configures schema next := by
  obtain ⟨before, rfl⟩ := hsuffix
  induction before with
  | nil => exact h.1
  | cons _ _ ih => exact ih h.2

section
variable {name : String} {arguments : List (Option Origin)} {block : Option Span} {span : Span}
  {callee : Callee} {outcome : Outcome} {object : Origin}

theorem BlockChecked.of_opens {semantics : Semantics} {opens : Bool}
    (h : BlockChecked name semantics span c block opens c') (hopens : opens = true) :
    block.isSome = true ∧ semantics.blockRule ≠ .forbidden := by
  cases h with
  | opens hrule => exact ⟨rfl, hrule⟩
  | _ => cases hopens

theorem Invoked.block_isSome (h : Invoked name arguments block span c callee outcome c')
    (ho : outcome.configured = some object) : block.isSome = true := by
  cases h <;> simp only [Option.ite_none_right_eq_some, reduceCtorEq] at ho
  all_goals
    next hb => exact (hb.of_opens ho.1).1

theorem Invoked.type_configured (schema : Schema)
    (h : Invoked name arguments block span c callee outcome c')
    (ho : outcome.configured = some object) :
    ∃ ref, callee.semantics.configures? = some ref ∧
      object.type schema.typeOf =
        if callee.accessesFromTop then .ok .unit else schema.typeOf ref := by
  cases h <;> simp only [Option.ite_none_right_eq_some, Option.some.injEq, reduceCtorEq] at ho
  case configure accessor _ _ _ hs _ _ =>
    obtain ⟨-, rfl⟩ := ho
    exact ⟨accessor.object, by simp [Callee.semantics, hs, Semantics.configures?], rfl⟩
  case add ref _ _ _ _ hs _ _ _ | incomplete ref _ _ _ _ hs _ _ _ =>
    obtain ⟨-, rfl⟩ := ho
    refine ⟨ref, by simp [Callee.semantics, hs, Semantics.configures?], ?_⟩
    simp [Origin.type, hs, Semantics.result, Callee.accessesFromTop]
  case topLevel function _ _ hb =>
    obtain ⟨hopens, rfl⟩ := ho
    have hrule := (hb.of_opens hopens).2
    cases hs : function.semantics with
    | configure accessor =>
      -- the accessor is not looked at, and the result of such a call is a unit
      refine ⟨accessor.object, by simp [Callee.semantics, hs, Semantics.configures?], ?_⟩
      simp [Origin.type, hs, Semantics.result, Callee.accessesFromTop, Schema.typeOf]
    | add ref acceptsBlock =>
      refine ⟨ref, by simp [Callee.semantics, hs, Semantics.configures?], ?_⟩
      simp [Origin.type, hs, Semantics.result, Callee.accessesFromTop]
    | builder result => exact absurd (by rw [hs]; rfl) hrule
    | pure result => exact absurd (by rw [hs]; rfl) hrule

theorem Invoked.ofConfiguredType (closed : schema.Closed)
    (h : Invoked name arguments block span c callee outcome c') (hcallee : callee.Typed schema)
    (harguments : ArgumentsTyped schema arguments) (ho : outcome.configured = some object) :
    OfConfiguredType schema callee object := by
  obtain ⟨ref, hconfigures, htype⟩ := h.type_configured schema ho
  obtain ⟨type, hobject, -⟩ := ((h.outcome_typed closed hcallee harguments).1 object ho).hasType
  refine ⟨ref, type, hconfigures, hobject, ?_⟩
  rw [hobject] at htype
  split at htype
  · next htop => simpa [htop] using htype
  · next htop => simp [htop, htype]

theorem Walk.opened_of_configured (node : Call) {visits : List Visit}
    (h : Walk schema (.configured (some object) node.block) c () c' visits)
    (hblock : (node.block.map (·.span)).isSome = true) : Opened schema node object visits := by
  obtain ⟨receiver, name, arguments, block, span⟩ := node
  cases h with
  | noBlock => cases hblock
  | opened hb => exact ⟨_, _, _, _, rfl, List.prefix_rfl, hb⟩

end

theorem Walk.configured (closed : schema.Closed) {task : Task} {result : task.Result}
    {visits : List Visit} (h : Walk schema task c result c' visits) (htask : task.Typed schema)
    (hc : c.Typed schema) : Configured schema visits := by
  induction h with
  | implicitTarget => exact ⟨trivial, trivial⟩
  | noTarget _ ih => exact (ih trivial hc).append ⟨trivial, trivial⟩
  | memberTarget _ _ ih => exact (ih trivial hc).append ⟨trivial, trivial⟩
  | literal => trivial
  | null => trivial
  | this => trivial
  | value => trivial
  | implicitRead _ _ ih => exact ih trivial hc
  | memberRead _ ih => exact ih trivial hc
  | callExpr _ ih => exact ih trivial hc
  | uncalled hr _ _ ihr iha =>
    have hc₁ := (hr.typed closed trivial hc).1
    exact ((ihr trivial hc).append (iha trivial hc₁)).append ⟨trivial, trivial⟩
  | @called receiver name arguments block span _ _ callee outcome _ _ _ _ _ _ _ _ _ hr ha hf hi hb
      ihr iha ihb =>
    obtain ⟨hc₁, hon⟩ := hr.typed closed trivial hc
    obtain ⟨hc₂, harguments⟩ := ha.typed closed trivial hc₁
    have hcallee := hf.typed hc₂ hon
    have hc₄ := hi.typed closed (hc₂.noted hf.noted) hcallee harguments
    have hconfigured := (hi.outcome_typed closed hcallee harguments).1
    -- a call is noted before its block, so the visits of the block are those that come next
    refine ((ihr trivial hc).append (iha trivial hc₁)).append ⟨?_, ihb hconfigured hc₄⟩
    cases ho : outcome.configured with
    | none => trivial
    | some object =>
      rw [ho] at hb
      have hopened := hb.opened_of_configured ⟨receiver, name, arguments, block, span⟩
        (hi.block_isSome ho)
      exact ⟨hopened, hi.ofConfiguredType closed hcallee harguments ho⟩
  | unqualified => trivial
  | unresolved _ ih => exact ih trivial hc
  | object _ ih => exact ih trivial hc
  | noArguments => trivial
  | argument h _ ih ihs =>
    have hc₁ := (h.typed closed trivial hc).1
    exact (ih trivial hc).append (ihs trivial hc₁)
  | noBlock => trivial
  | skipped => trivial
  | opened _ _ _ ih =>
    refine ih trivial (hc.within (List.forall_mem_cons.mpr ⟨⟨htask _ rfl, ?_⟩, hc.scopes⟩))
    exact List.forall_mem_nil _
  | assign ht _ _ iht ihv =>
    have hc₁ := (ht.typed closed trivial hc).1
    exact ((iht trivial hc).append (ihv trivial hc₁)).append ⟨trivial, trivial⟩
  | unassigned ht _ _ iht ihv =>
    have hc₁ := (ht.typed closed trivial hc).1
    exact ((iht trivial hc).append (ihv trivial hc₁)).append ⟨trivial, trivial⟩
  | val _ _ ih => exact (ih trivial hc).append ⟨trivial, trivial⟩
  | unbound _ ih => exact (ih trivial hc).append ⟨trivial, trivial⟩
  | exprStatement _ ih => exact ih trivial hc
  | noStatements => trivial
  | statements h _ ih ihs =>
    have hc₁ := (h.typed closed trivial hc).1
    exact (ih trivial hc).append (ihs trivial hc₁)
  | block _ ih => exact ih trivial hc

/-- With a schema that is read from a text, a block that is resolved is resolved in a scope on an
object of the type that its function configures. The exception are top-level functions that are
declared to access an object: their blocks are resolved on a unit, whatever the object is. -/
theorem block_receiver_type {text : String} (h : Schema.ofText text = .ok schema)
    (document : Block) :
    ∃ result, Resolution.ofDocument schema document = .ok result ∧
      (∃ visits, Traversal schema document visits result) ∧
      ∀ visits, Traversal schema document visits result →
        ∀ node way callee object next,
          .call node way (some callee) (some object) :: next <:+ visits →
            Opened schema node object next ∧ OfConfiguredType schema callee object := by
  have closed := Schema.closed_of_text h
  obtain ⟨result, hresult, -⟩ := exists_resolution_of_closed closed document
  refine ⟨result, hresult, ofDocument_ok.mp hresult, ?_⟩
  rintro visits ⟨c, hw, rfl⟩ node way callee object next hnext
  have htop := forall_mem_some (typed_topReceiver closed document)
  exact (hw.configured closed htop typed_new).of_suffix hnext

end Resolver

namespace Sample

def hubText : String :=
  r#"["Hub",[["Hub",[],[],[["dock",[],["add_and_configure","Bay",true]]]],
["Bay",[],[["width","Int"]]]],[["","open",[],["access_and_configure",["bay","Bay"]]]]]"#

def bayRef : TypeRef := .named ⟨"", "Bay"⟩

def bay : ClassDecl := ⟨⟨"", "Bay"⟩, .empty, [⟨"width", int, false, false, false⟩], []⟩

def hub : ClassDecl := ⟨⟨"", "Hub"⟩, .empty, [], [⟨"dock", [], .add bayRef true, false⟩]⟩

def hubs : Schema := ⟨hub, [bay, hub], [⟨"", "open", [], .configure ⟨"bay", bayRef⟩⟩], []⟩

theorem ofText_hubText : Schema.ofText hubText = .ok hubs := by cbv

def measure (name : String) (start : Nat) : Call :=
  ⟨none, name, [], some ⟨[.expr (.access ⟨none, "width", place start⟩)], place (start + 1)⟩,
    place (start + 2)⟩

def measures : Block :=
  ⟨[.expr (.call (measure "dock" 1)), .expr (.call (measure "open" 5))], place 0⟩

end Sample

open Resolver in
theorem Sample.measures_visits :
    ∃ visits result, Traversal hubs measures visits result ∧
      (∃ way callee object next,
        .call (measure "dock" 1) way (some callee) (some object) :: next <:+ visits ∧
        object.type hubs.typeOf = .ok (.object bay)) ∧
      (∃ way callee object next,
        .call (measure "open" 5) way (some callee) (some object) :: next <:+ visits ∧
        callee.semantics = .configure ⟨"bay", bayRef⟩ ∧ object.type hubs.typeOf = .ok .unit) ∧
      result.issues = [⟨place 5, .unresolvedName "width"⟩] := by
  -- the width of the new bay is found, and in the other block nothing is
  refine ⟨_, _, ⟨_, .opened (.block (.statements (.exprStatement (.callExpr (.called .unqualified
    .noArguments (.unqualified rfl rfl .found) (.add rfl rfl (.free rfl) (.opens (by decide)))
    (.opened (.block (.statements (.exprStatement (.implicitRead rfl (.implicitTarget rfl
      (.found (.free rfl))))) .noStatements)) rfl rfl))))
    (.statements (.exprStatement (.callExpr (.called .unqualified .noArguments
      (.unqualified rfl rfl .found) (.topLevel (.opens (by decide)))
      (.opened (.block (.statements (.exprStatement (.implicitRead rfl
        (.implicitTarget rfl .missing))) .noStatements)) rfl rfl)))) .noStatements))) rfl rfl, rfl⟩,
    ?_, ?_, rfl⟩
  · exact ⟨_, _, _, _, ⟨[], rfl⟩, rfl⟩
  · exact ⟨_, _, _, _, ⟨[_, _], rfl⟩, rfl, rfl⟩

theorem Resolver.sample_block_receiver_type :
    Schema.ofText Sample.hubText = .ok Sample.hubs ∧
    (∃ visits result, Traversal Sample.hubs Sample.measures visits result ∧
      ∃ node way callee object next,
        .call node way (some callee) (some object) :: next <:+ visits ∧
        object.type Sample.hubs.typeOf = .ok (.object Sample.bay)) ∧
    ∃ result, Resolution.ofDocument Sample.hubs Sample.measures = .ok result ∧
      (∃ visits, Traversal Sample.hubs Sample.measures visits result) ∧
      ∀ visits, Traversal Sample.hubs Sample.measures visits result →
        ∀ node way callee object next,
          .call node way (some callee) (some object) :: next <:+ visits →
            Opened Sample.hubs node object next ∧
            OfConfiguredType Sample.hubs callee object := by
  obtain ⟨visits, result, hvisits, ⟨way, callee, object, next, hnext, htype⟩, -⟩ :=
    Sample.measures_visits
  exact ⟨Sample.ofText_hubText,
    ⟨visits, result, hvisits, _, way, callee, object, next, hnext, htype⟩,
    block_receiver_type Sample.ofText_hubText Sample.measures⟩

/-- A block that is declared to configure a bay is resolved on a unit, and the width of the bay is
not found in it. -/
theorem Resolver.exists_block_on_unit :
    Schema.ofText Sample.hubText = .ok Sample.hubs ∧
    ∃ visits result, Traversal Sample.hubs Sample.measures visits result ∧
      (∃ node way callee object next,
        .call node way (some callee) (some object) :: next <:+ visits ∧
        callee.semantics = .configure ⟨"bay", Sample.bayRef⟩ ∧
        Sample.hubs.typeOf Sample.bayRef = .ok (.object Sample.bay) ∧
        object.type Sample.hubs.typeOf = .ok .unit) ∧
      result.issues = [⟨Sample.place 5, .unresolvedName "width"⟩] := by
  obtain ⟨visits, result, hvisits, -, ⟨way, callee, object, next, hnext, hsemantics, htype⟩,
    hissues⟩ := Sample.measures_visits
  exact ⟨Sample.ofText_hubText, visits, result, hvisits,
    ⟨_, way, callee, object, next, hnext, hsemantics, rfl, htype⟩, hissues⟩

end ConfigScope
