import ConfigScope.Proofs.Frame

/-!
# Resolving only adds

What was found before an expression or a block is resolved stays in front of what is found
by resolving it, and the scopes around it stay as they are. An expression leaves no trace in
them at all, however many blocks it opens on the way; a block may declare values in its own
scope, under names that are still free.

So a document can be resolved from its beginning: what its first statements come to is not
affected by the others, and stands in front of what the whole document comes to
(`resolve_only_adds`).
-/

namespace ConfigScope

/-- The second resolution is of the same receiver and goes on where the first one ends. -/
structure Resolution.Continues (resolution next : Resolution) : Prop where
  top : next.top = resolution.top
  issues : resolution.issues <+: next.issues
  assignments : resolution.assignments <+: next.assignments
  additions : resolution.additions <+: next.additions

namespace Resolver

variable {schema : Schema} {c c' : Context Findings} {visits : List Visit}

theorem Walk.split_statements {statements more : List Statement}
    (h : Walk schema (.statements (statements ++ more)) c () c' visits) :
    ∃ middle visits₁ visits₂, Walk schema (.statements statements) c () middle visits₁ ∧
      Walk schema (.statements more) middle () c' visits₂ := by
  induction statements generalizing c visits with
  | nil => exact ⟨c, [], visits, .noStatements, h⟩
  | cons statement rest ih =>
    cases h with
    | statements hfirst hrest =>
      obtain ⟨middle, _, _, hrest, hmore⟩ := ih hrest
      exact ⟨middle, _, _, .statements hfirst hrest, hmore⟩

theorem exists_resolution_of_append {statements more : List Statement} {span : Span}
    {longer : Resolution}
    (h : Resolution.ofDocument schema ⟨statements ++ more, span⟩ = .ok longer) :
    ∃ result, Resolution.ofDocument schema ⟨statements, span⟩ = .ok result ∧
      result.Continues longer := by
  obtain ⟨visits, _, hw, rfl⟩ := ofDocument_ok.mp h
  cases hw with
  | opened hblock _ _ =>
    cases hblock with
    | block hstatements =>
      obtain ⟨middle, visits₁, _, hfirst, hmore⟩ := hstatements.split_statements
      -- the shorter document ends where the first statements do, in the scope of the top receiver
      obtain ⟨inner, hscopes⟩ := exists_inner_of_declared hfirst.frame.1
      have hshort : Traversal schema ⟨statements, span⟩ visits₁
          (resolution (topReceiver schema ⟨statements, span⟩) (middle.within [])) :=
        ⟨_, .opened (.block hfirst) hscopes rfl, rfl⟩
      obtain ⟨hissues, hassignments, hadditions, -⟩ := hmore.frame.2
      exact ⟨_, ofDocument_ok.mpr ⟨visits₁, hshort⟩, rfl, hissues, hassignments, hadditions⟩

/-- Expressions keep all scopes, and blocks keep all but the innermost one, in which they may bind
names that are free. Findings are only ever added to, and ids are not taken back. So what the first
statements of a document come to stands in front of what the whole document comes to. -/
theorem resolve_only_adds (schema : Schema) :
    (∀ expr c value c', (resolveExpr schema expr).run c = (.ok value, c') →
      c'.scopes = c.scopes ∧ c.Extends c') ∧
    (∀ block c scope outer c', c.scopes = scope :: outer →
      (resolveBlock schema block).run c = (.ok (), c') →
      (∃ inner, c'.scopes = inner :: outer ∧ scope.Grows inner) ∧ c.Extends c') ∧
    ∀ statements more span longer,
      Resolution.ofDocument schema ⟨statements ++ more, span⟩ = .ok longer →
      ∃ result, Resolution.ofDocument schema ⟨statements, span⟩ = .ok result ∧
        result.Continues longer := by
  refine ⟨?_, ?_, fun _ _ _ _ => exists_resolution_of_append⟩
  · intro expr c value c' hrun
    obtain ⟨_, hw⟩ := exists_walk (.expr expr) hrun
    exact hw.frame
  · intro block c scope outer c' hscopes hrun
    obtain ⟨_, hw⟩ := exists_walk (.block block) hrun
    -- the statements of a block declare in its own scope, and the outer ones are not touched
    obtain ⟨hkeeps, hextends⟩ := hw.frame
    rw [hscopes] at hkeeps
    exact ⟨exists_grown_of_declared hkeeps, hextends⟩

end Resolver

namespace Sample

def equipped : Expr :=
  .call ⟨none, "server", [], some ⟨[.val "it" (.this (place 1)) (place 2), assign none "port" 80 3,
    configure "monitor" [] 6], place 8⟩, place 9⟩

def naming : List Statement :=
  [.val "host" (.this (place 10)) (place 11), .val "host" (.null (place 12)) (place 13)]

def midway : Context Findings :=
  ⟨[⟨.top (.object app) (place 0), [("it", .null (place 0))]⟩], #[], 7, ⟨#[], #[]⟩⟩

end Sample

theorem Resolver.sample_resolve_only_adds :
    (∃ value c', (resolveExpr Sample.schema Sample.equipped).run Sample.midway = (.ok value, c') ∧
      c'.nextId = 9 ∧ c'.scopes = Sample.midway.scopes ∧ Sample.midway.Extends c') ∧
    (∃ scope c', Sample.midway.scopes = [scope] ∧
      (resolveBlock Sample.schema ⟨Sample.naming, Sample.place 0⟩).run Sample.midway =
        (.ok (), c') ∧
      c'.issues.size = 1 ∧
      (∃ inner, c'.scopes = [inner] ∧ scope.Grows inner) ∧ Sample.midway.Extends c') ∧
    ∃ longer, Resolution.ofDocument Sample.schema
        ⟨[.expr Sample.equipped] ++ Sample.naming, Sample.place 0⟩ = .ok longer ∧
      longer.issues.length = 1 ∧
      ∃ result, Resolution.ofDocument Sample.schema ⟨[.expr Sample.equipped], Sample.place 0⟩ =
          .ok result ∧
        result.Continues longer := by
  obtain ⟨hexpr, hblock, hdocument⟩ := resolve_only_adds Sample.schema
  exact ⟨⟨_, _, rfl, rfl, hexpr Sample.equipped _ _ _ rfl⟩,
    ⟨_, _, rfl, rfl, rfl, hblock ⟨Sample.naming, Sample.place 0⟩ _ _ _ _ rfl rfl⟩,
    ⟨_, rfl, rfl, hdocument [.expr Sample.equipped] Sample.naming _ _ rfl⟩⟩

end ConfigScope
