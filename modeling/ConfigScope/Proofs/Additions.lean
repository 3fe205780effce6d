import ConfigScope.Proofs.Ledger
import Mathlib.Data.List.Forall2

/-!
# What is added, and what is complete

A call whose function adds something is recorded as an addition, unless one of its
arguments is missing. So every addition is the result of a call that its container
offers and whose arguments fit its parameters, and it is recorded once
(`additions_sound`): additions come in the order of their calls.

A call with a missing argument still opens its block, on an object that is not
whole. But then there is an issue. In a document without issues every call origin,
wherever it stands, has all its arguments, and every object that is to be added is
(`whole_of_no_issues`).
-/

namespace ConfigScope

namespace Schema

def Takes (schema : Schema) (parameter : Parameter) (argument : Origin) : Prop :=
  ∃ expected actual, schema.typeOf parameter.type = .ok expected ∧
    argument.type schema.typeOf = .ok actual ∧ actual.conformsTo expected = true

def Fits (schema : Schema) (parameters : List Parameter) (arguments : List Origin) : Prop :=
  List.Forall₂ schema.Takes parameters arguments

variable {schema : Schema} {parameters : List Parameter} {arguments : List (Option Origin)}
  {types : List (Option Ty)}

theorem fits_of_acceptsEach (hall : Resolver.complete arguments = true)
    (hlength : parameters.length = types.length)
    (htypes : schema.argumentTypes arguments = .ok types)
    (haccepts : schema.acceptsEach parameters types = .ok true) :
    schema.Fits parameters (Resolver.given arguments) := by
  -- on the arguments, whose number is that of the types and of the parameters
  induction arguments generalizing parameters types with
  | nil =>
    obtain rfl := except_pure_ok.mp htypes
    obtain rfl := List.length_eq_zero_iff.mp hlength
    exact .nil
  | cons argument rest ih =>
    cases argument with
    | none => cases hall
    | some origin =>
      simp only [argumentTypes, except_bind_ok, except_pure_ok] at htypes
      obtain ⟨actual, hactual, restTypes, hrest, rfl⟩ := htypes
      cases parameters with
      | nil => cases hlength
      | cons parameter others =>
        simp only [acceptsEach, except_bind_ok] at haccepts
        obtain ⟨expected, hexpected, haccepts⟩ := haccepts
        split at haccepts
        · next hconforms =>
          refine .cons ⟨expected, actual, hexpected, hactual, hconforms⟩ ?_
          exact ih (by simpa using hall) (by simpa using hlength) hrest haccepts
        · cases haccepts

end Schema

theorem Invocation.Lawful.fits {schema : Schema} {call : Invocation} (h : call.Lawful schema)
    (hall : Resolver.complete call.arguments = true) :
    schema.Fits call.callee.parameters (Resolver.given call.arguments) := by
  obtain ⟨-, types, htypes, haccepts⟩ := h
  unfold Schema.accepts at haccepts
  split at haccepts
  · next hlength => exact Schema.fits_of_acceptsEach hall hlength htypes haccepts
  · cases haccepts

/-! ## Additions -/

/-- The object is the result of an adding function of its container's class, called on the container
with arguments that fit. -/
inductive Addition.Sound (schema : Schema) : Addition → Prop
  | intro {container function arguments id span object acceptsBlock decl} :
      function.semantics = .add object acceptsBlock →
      container.type schema.typeOf = .ok (.object decl) → function ∈ decl.functions →
      schema.Fits function.parameters arguments →
      Sound schema ⟨container, .memberCall container function arguments id span⟩

/-- The object of one addition is that of an earlier call than the object of another. -/
def Addition.Precedes (a b : Addition) : Prop :=
  ∃ i j, a.object.id? = some i ∧ b.object.id? = some j ∧ i < j

theorem Addition.Precedes.object_ne {a b : Addition} (h : a.Precedes b) : a.object ≠ b.object := by
  obtain ⟨i, j, hi, hj, hlt⟩ := h
  intro heq
  rw [heq, hj] at hi
  cases hi
  exact Nat.lt_irrefl i hlt

namespace Invocation

theorem id?_of_addition? {id : Nat} {call : Invocation} {addition : Addition}
    (h : call.addition? id = some addition) : addition.object.id? = some id := by
  obtain ⟨receiver, function, object, acceptsBlock, -, -, -, rfl⟩ := addition?_eq_some.mp h
  rfl

theorem pairwise_additions (calls : List Invocation) :
    (additions calls).Pairwise Addition.Precedes := by
  -- the place of a call in the list is its id
  have hids : calls.zipIdx.Pairwise fun a b => a.2 < b.2 := by
    rw [← List.pairwise_map, List.zipIdx_map_snd]
    exact List.pairwise_lt_range'
  rw [additions, List.pairwise_filterMap]
  refine hids.imp ?_
  intro entry entry' hlt addition hadds addition' hadds'
  exact ⟨entry.2, entry'.2, id?_of_addition? hadds, id?_of_addition? hadds', hlt⟩

end Invocation

theorem Ledger.addition_sound {schema : Schema} (ledger : Ledger schema) {addition : Addition}
    (h : addition ∈ Invocation.additions ledger.calls) : addition.Sound schema := by
  obtain ⟨id, ⟨callee, arguments, span⟩, hcall, hadds⟩ := Invocation.mem_additions.mp h
  obtain ⟨receiver, function, object, acceptsBlock, rfl, hs, hall, rfl⟩ :=
    Invocation.addition?_eq_some.mp hadds
  have lawful := ledger.lawful _ (List.mem_of_getElem? hcall)
  obtain ⟨decl, htype, hfunction⟩ := lawful.declared
  exact .intro hs htype hfunction (lawful.fits hall)

/-! ## Whole origins -/

/-- The arguments of a call are all there, and fit. -/
def Origin.Whole (schema : Schema) : Origin → Prop
  | memberCall _ function arguments _ _ | built _ function arguments _ _ =>
    schema.Fits function.parameters arguments
  | topLevelCall function arguments _ _ => schema.Fits function.parameters arguments
  | constant _ _ | external _ _ | property _ _ _ | defaultValue _ _ _ | top _ _ | binding _ _ _
  | null _ | configured _ _ _ _ _ => True

theorem Invocation.Yields.whole {schema : Schema} {id : Nat} {call : Invocation} {origin : Origin}
    (h : call.Yields id origin) (lawful : call.Lawful schema)
    (hall : Resolver.complete call.arguments = true) : origin.Whole schema := by
  have hfits := lawful.fits hall
  cases h with
  | result => exact hfits
  | configured => trivial
  | built => exact hfits
  | topLevel => exact hfits

theorem Origin.whole_of_id?_eq_none {schema : Schema} {origin : Origin} (h : origin.id? = none) :
    origin.Whole schema := by
  cases origin with
  | memberCall | topLevelCall | built => cases h
  | _ => trivial

theorem Ledger.mem_additions_of_yields {schema : Schema} (ledger : Ledger schema) {id : Nat}
    {call : Invocation} {receiver : Origin} {function : MemberFunction} {arguments : List Origin}
    {span : Span} {object : TypeRef} {acceptsBlock : Bool} (hcall : ledger.calls[id]? = some call)
    (hyields : call.Yields id (.memberCall receiver function arguments id span))
    (hs : function.semantics = .add object acceptsBlock)
    (hall : Resolver.complete call.arguments = true) :
    ⟨receiver, .memberCall receiver function arguments id span⟩ ∈
      Invocation.additions ledger.calls := by
  cases hyields with
  | result =>
    refine Invocation.mem_additions.mpr ⟨id, _, hcall, ?_⟩
    exact Invocation.addition?_eq_some.mpr ⟨_, _, _, _, rfl, hs, hall, rfl⟩

theorem filter_object_eq {additions : List Addition} (h : additions.Pairwise Addition.Precedes)
    {addition : Addition} (hmem : addition ∈ additions) :
    additions.filter (·.object = addition.object) = [addition] := by
  induction additions with
  | nil => cases hmem
  | cons head rest ih =>
    obtain ⟨hhead, hrest⟩ := List.pairwise_cons.mp h
    rcases List.mem_cons.mp hmem with rfl | hmem
    · have hlater : rest.filter (·.object = addition.object) = [] := by
        rw [List.filter_eq_nil_iff]
        intro later hlater
        simpa using (hhead later hlater).object_ne.symm
      simp [hlater]
    · have hne := (hhead addition hmem).object_ne
      simp [hne, ih hrest hmem]

namespace Resolver

variable {schema : Schema} {document : Block} {result : Resolution}

/-- Every addition is sound, and the ids of the objects grow along the additions. So no object is
added twice. -/
theorem additions_sound (h : Resolution.ofDocument schema document = .ok result) :
    (∀ addition ∈ result.additions, addition.Sound schema) ∧
      result.additions.Pairwise Addition.Precedes ∧ (result.additions.map (·.object)).Nodup := by
  obtain ⟨ledger, -, hadditions, -⟩ := exists_ledger h
  have hordered := hadditions ▸ Invocation.pairwise_additions ledger.calls
  refine ⟨fun addition hmem => ledger.addition_sound (hadditions ▸ hmem), hordered, ?_⟩
  exact List.pairwise_map.mpr (hordered.imp Addition.Precedes.object_ne)

/-- Without issues every call origin has arguments that fit, and each object that an adding function
gave is the object of one addition, to the receiver of the call. -/
theorem whole_of_no_issues (h : Resolution.ofDocument schema document = .ok result)
    (hissues : result.issues = []) :
    (∀ origin, result.Holds origin → origin.Whole schema) ∧
    ∀ receiver function arguments id span object acceptsBlock,
      result.Holds (.memberCall receiver function arguments id span) →
      function.semantics = .add object acceptsBlock →
      result.additions.filter (·.object = .memberCall receiver function arguments id span) =
        [⟨receiver, .memberCall receiver function arguments id span⟩] := by
  obtain ⟨ledger, hlisted, hadditions, hcomplete⟩ := exists_ledger h
  constructor
  · intro origin horigin
    cases hid : origin.id? with
    | none => exact Origin.whole_of_id?_eq_none hid
    | some id =>
      obtain ⟨call, hcall, hyields⟩ := hlisted horigin hid
      have hmem := List.mem_of_getElem? hcall
      exact hyields.whole (ledger.lawful call hmem) (hcomplete hissues call hmem)
  · intro receiver function arguments id span object acceptsBlock hholds hs
    obtain ⟨call, hcall, hyields⟩ := hlisted hholds rfl
    have hall := hcomplete hissues call (List.mem_of_getElem? hcall)
    -- the addition of this call is listed, and no other one has its object
    have hmem := ledger.mem_additions_of_yields hcall hyields hs hall
    rw [hadditions]
    exact filter_object_eq (Invocation.pairwise_additions ledger.calls) hmem

end Resolver

namespace Sample

def boxRef : TypeRef := .named ⟨"", "Box"⟩

def box : ClassDecl :=
  ⟨⟨"", "Box"⟩, .empty, [⟨"lid", boxRef, false, false, false⟩],
    [⟨"box", [], .add boxRef true, false⟩,
      ⟨"pair", [⟨none, boxRef⟩, ⟨none, boxRef⟩], .add boxRef true, false⟩,
      ⟨"labelled", [⟨some "text", .inline (.scalar .string)⟩], .builder boxRef, false⟩]⟩

def boxes : Schema := ⟨box, [box], [], []⟩

def newBox (start : Nat) : Expr := .call ⟨none, "box", [], none, place start⟩

def pair (left right : Expr) (statements : List Statement) (start : Nat) : Block :=
  ⟨[.expr (.call ⟨none, "pair", [left, right], some ⟨statements, place start⟩,
    place (start + 1)⟩)], place 0⟩

/-- A pair of new boxes. Inside of it one more box is made, labelled, and put on as the lid. -/
def packing : Block :=
  pair (newBox 1) (newBox 2) [.assign ⟨none, "lid", place 3⟩
    (.call ⟨some (newBox 4), "labelled", [.literal (.string "top") (place 5)], none, place 6⟩)
    (place 7)] 8

def mispacking : Block :=
  pair (newBox 1) (.access ⟨none, "lost", place 2⟩) [.expr (newBox 3)] 4

end Sample

theorem Resolver.sample_additions_sound :
    ∃ result, Resolution.ofDocument Sample.boxes Sample.mispacking = .ok result ∧
      result.additions.map (fun a => (a.container.id?, a.object.id?)) =
        [(none, some 0), (some 1, some 2)] ∧
      (∀ addition ∈ result.additions, addition.Sound Sample.boxes) ∧
      result.additions.Pairwise Addition.Precedes ∧ (result.additions.map (·.object)).Nodup :=
  ⟨_, rfl, rfl,
    additions_sound (rfl : Resolution.ofDocument Sample.boxes Sample.mispacking = .ok _)⟩

theorem Resolver.sample_whole_of_no_issues :
    ∃ result, Resolution.ofDocument Sample.boxes Sample.packing = .ok result ∧
      result.issues = [] ∧
      result.additions.map (fun a => (a.container.id?, a.object.id?)) =
        [(none, some 0), (none, some 1), (none, some 2), (some 2, some 3)] ∧
      (∃ receiver function arguments id span object acceptsBlock,
        result.Holds (.memberCall receiver function arguments id span) ∧
        function.semantics = .add object acceptsBlock) ∧
      (∀ origin, result.Holds origin → origin.Whole Sample.boxes) ∧
      ∀ receiver function arguments id span object acceptsBlock,
        result.Holds (.memberCall receiver function arguments id span) →
        function.semantics = .add object acceptsBlock →
        result.additions.filter (·.object = .memberCall receiver function arguments id span) =
          [⟨receiver, .memberCall receiver function arguments id span⟩] :=
  ⟨_, rfl, rfl, rfl,
    ⟨_, _, _, _, _, _, _, ⟨_, List.mem_of_getElem? (i := 4) rfl, .here⟩, rfl⟩,
    whole_of_no_issues (rfl : Resolution.ofDocument Sample.boxes Sample.packing = .ok _) rfl⟩

end ConfigScope
