import ConfigScope.Proofs.Ledger

/-!
# Calls are told apart by their ids

Of all the origins that stand in a resolution, at any depth, those that came from
calls carry the ids of these calls. An id belongs to one call only: two origins
with the same id are equal, unless one is the object that the block of a call is
about and the other what the same call comes to. And an id is larger than all ids
inside the origin that carries it, since a call is made after the calls that it
was made on and with (`identified_by_id`).

Both are read off the ledger of the document.
-/

namespace ConfigScope

namespace Origin

def Inside (origin whole : Origin) : Prop :=
  ∃ part ∈ whole.parts, origin.Occurs part

/-- The object that the block of a call is about, and what the same call comes to. -/
inductive Companion : Origin → Origin → Prop
  | intro {receiver function accessor arguments id span} :
      function.semantics = .configure accessor →
      Companion (configured receiver function id accessor span)
        (memberCall receiver function arguments id span)

end Origin

theorem Invocation.Yields.eq_or_companion {id : Nat} {call : Invocation} {a b : Origin}
    (ha : call.Yields id a) (hb : call.Yields id b) : a = b ∨ a.Companion b ∨ b.Companion a := by
  -- the semantics of the function decide what a call yields, so in a mixed case the two are
  -- companions or the function has two semantics at once
  cases ha with
  | result hresult =>
    cases hb with
    | result => exact .inl rfl
    | configured hs => exact .inr (.inr (.intro hs))
    | built hs => exact absurd hs (hresult _)
  | configured hs =>
    cases hb with
    | result => exact .inr (.inl (.intro hs))
    | configured hs' =>
      rw [hs] at hs'
      cases hs'
      exact .inl rfl
    | built hs' =>
      rw [hs] at hs'
      cases hs'
  | built hs =>
    cases hb with
    | result hresult => exact absurd hs (hresult _)
    | configured hs' =>
      rw [hs] at hs'
      cases hs'
    | built => exact .inl rfl
  | topLevel =>
    cases hb with
    | topLevel => exact .inl rfl

theorem Ledger.id_lt_of_inside {schema : Schema} (ledger : Ledger schema) {id inner : Nat}
    {call : Invocation} {whole part : Origin} (hcall : ledger.calls[id]? = some call)
    (hyields : call.Yields id whole) (hinside : part.Inside whole)
    (hinner : part.id? = some inner) : inner < id := by
  obtain ⟨outer, houter, hoccurs⟩ := hinside
  have htraced := ledger.ordered hcall outer (hyields.parts_subset houter)
  obtain ⟨_, hfound, -⟩ := htraced hoccurs hinner
  obtain ⟨hlt, -⟩ := List.getElem?_eq_some_iff.mp hfound
  exact Nat.lt_of_lt_of_le hlt (List.length_take_le id ledger.calls)

namespace Resolver

variable {schema : Schema} {document : Block} {result : Resolution}

/-- Ids grow from the inside to the outside. Origins with the same id are equal, or one opens the
block of the call that the other one is the result of. Companions are of different kinds, so origins
of one kind with the same id are equal. -/
theorem identified_by_id (h : Resolution.ofDocument schema document = .ok result) :
    (∀ (whole part : Origin) (id inner : Nat), result.Holds whole → whole.id? = some id →
      part.Inside whole → part.id? = some inner → inner < id) ∧
    ∀ (a b : Origin) (id : Nat), result.Holds a → result.Holds b → a.id? = some id →
      b.id? = some id → a = b ∨ a.Companion b ∨ b.Companion a := by
  obtain ⟨ledger, hlisted, -, -⟩ := exists_ledger h
  constructor
  · intro whole part id inner hwhole hid hinside hinner
    obtain ⟨call, hcall, hyields⟩ := hlisted hwhole hid
    exact ledger.id_lt_of_inside hcall hyields hinside hinner
  · intro a b id ha hb hida hidb
    obtain ⟨call, hcall, hyields⟩ := hlisted ha hida
    obtain ⟨call', hcall', hyields'⟩ := hlisted hb hidb
    -- one id, one call
    rw [hcall] at hcall'
    cases hcall'
    exact hyields.eq_or_companion hyields'

end Resolver

namespace Sample

def step : ClassDecl :=
  ⟨⟨"job", "Step"⟩, .empty,
    [⟨"level", int, false, false, false⟩, ⟨"done", .inline .unit, false, false, false⟩],
    [⟨"step", [], .configure ⟨"step", .named ⟨"job", "Step"⟩⟩, false⟩]⟩

def steps : Schema := ⟨step, [step], [], []⟩

def finish (statements : List Statement) (start : Nat) : Statement :=
  .assign ⟨none, "done", place start⟩
    (.call ⟨none, "step", [], some ⟨statements, place (start + 1)⟩, place (start + 2)⟩)
    (place (start + 3))

def nestedSteps : Block := ⟨[finish [finish [assign none "level" 1 10] 20] 30], place 0⟩

end Sample

theorem Resolver.sample_identified_by_id :
    ∃ result, Resolution.ofDocument Sample.steps Sample.nestedSteps = .ok result ∧
      result.assignments.map (fun a => (a.target.receiver.id?, a.value.id?)) =
        [(some 1, none), (some 0, some 1), (none, some 0)] ∧
      (∃ a b, result.Holds a ∧ result.Holds b ∧ a.id? = some 0 ∧ b.id? = some 0 ∧
        a.Companion b) ∧
      (∀ (whole part : Origin) (id inner : Nat), result.Holds whole → whole.id? = some id →
        part.Inside whole → part.id? = some inner → inner < id) ∧
      ∀ (a b : Origin) (id : Nat), result.Holds a → result.Holds b → a.id? = some id →
        b.id? = some id → a = b ∨ a.Companion b ∨ b.Companion a :=
  ⟨_, rfl, rfl,
    ⟨_, _, ⟨_, List.mem_of_getElem? (i := 3) rfl, .here⟩,
      ⟨_, List.mem_of_getElem? (i := 6) rfl, .here⟩, rfl, rfl, .intro rfl⟩,
    identified_by_id (rfl : Resolution.ofDocument Sample.steps Sample.nestedSteps = .ok _)⟩

end ConfigScope
