import ConfigScope.Proofs.ClosedSchema
import ConfigScope.Resolution.Resolver
import Mathlib.Data.List.Perm.Basic

/-!
# The order of declarations

Classes may be declared in any order. Whether the declarations make a schema, which
error is reported if they do not, and everything that can be asked of the schema
otherwise is the same (`ofDeclarations_reorder`).

For external objects the same holds as long as one type at most is undeclared among
them: which of two such errors would be met first depends on the order in which they
are looked at.
-/

namespace ConfigScope

def TypeRef.Undeclared (classes : List ClassDecl) : TypeRef → Prop
  | .inline _ => False
  | .named name => name ∉ classes.map (·.name)

namespace Schema

/-! ## Classes in the order of their names -/

theorem perm_insertClass (decl : ClassDecl) (sorted : List ClassDecl) :
    (insertClass decl sorted).Perm (decl :: sorted) := by
  induction sorted with
  | nil => exact .refl _
  | cons head rest ih =>
    unfold insertClass
    split
    · exact .refl _
    · exact (ih.cons head).trans (.swap decl head rest)

theorem findClass?_eq_none_iff {classes : List ClassDecl} {name : QualifiedName} :
    findClass? classes name = none ↔ name ∉ classes.map (·.name) := by
  simp [findClass?]

theorem exists_collectClasses {sorted decls : List ClassDecl}
    (hnames : ((decls ++ sorted).map (·.name)).Nodup) :
    ∃ classes, collectClasses sorted decls = .ok classes ∧ classes.Perm (decls ++ sorted) := by
  induction decls generalizing sorted with
  | nil => exact ⟨sorted, rfl, .refl sorted⟩
  | cons head rest ih =>
    have hmove : (rest ++ insertClass head sorted).Perm (head :: rest ++ sorted) :=
      ((perm_insertClass head sorted).append_left rest).trans List.perm_middle
    obtain ⟨classes, hclasses, hperm⟩ := ih ((hmove.map _).nodup_iff.mpr hnames)
    refine ⟨classes, ?_, hperm.trans hmove⟩
    have hnew : findClass? sorted head.name = none := by
      rw [findClass?_eq_none_iff]
      intro htaken
      rw [List.map_append, List.map_cons, List.cons_append, List.nodup_cons] at hnames
      exact hnames.1 (List.mem_append_right _ htaken)
    rw [collectClasses, hnew]
    exact hclasses

theorem InNameOrder.eq_of_perm {a b : List ClassDecl} (ha : InNameOrder a) (hb : InNameOrder b)
    (h : a.Perm b) : a = b := by
  refine h.eq_of_pairwise ?_ ha hb
  intro first second _ _ hbefore hafter
  exact (QualifiedName.before_asymm hbefore hafter).elim

theorem exists_collectClasses_of_perm {a b : List ClassDecl} (hnames : (a.map (·.name)).Nodup)
    (h : a.Perm b) :
    ∃ classes, collectClasses [] a = .ok classes ∧ collectClasses [] b = .ok classes ∧
      classes.Perm a := by
  have hnames' : (b.map (·.name)).Nodup := (h.map _).nodup_iff.mp hnames
  obtain ⟨classes, hclasses, hperm⟩ := exists_collectClasses ((List.append_nil a).symm ▸ hnames)
  obtain ⟨classes', hclasses', hperm'⟩ := exists_collectClasses ((List.append_nil b).symm ▸ hnames')
  rw [List.append_nil] at hperm hperm'
  have heq : classes = classes' :=
    (inNameOrder_collectClasses hclasses .nil).eq_of_perm
      (inNameOrder_collectClasses hclasses' .nil) (hperm.trans (h.trans hperm'.symm))
  exact ⟨classes, hclasses, heq ▸ hclasses', hperm⟩

/-! ## External objects by name -/

def lastExternal? (externals : List External) (name : String) : Option External :=
  externals.reverse.find? (·.name == name)

theorem lastExternal?_cons (head : External) (rest : List External) (name : String) :
    lastExternal? (head :: rest) name =
      (lastExternal? rest name).or (if head.name = name then some head else none) := by
  simp [lastExternal?, List.find?_append, List.find?_singleton]

theorem lastExternal?_eq_none_iff {externals : List External} {name : String} :
    lastExternal? externals name = none ↔ externals.any (·.name == name) = false := by
  simp [lastExternal?]

theorem find?_collectExternals (externals : List External) (name : String) :
    (collectExternals externals).find? (·.name == name) = lastExternal? externals name := by
  induction externals with
  | nil => rfl
  | cons head rest ih =>
    rw [lastExternal?_cons, collectExternals]
    by_cases hname : head.name = name
    · subst hname
      cases hlater : rest.any (·.name == head.name) with
      | true =>
        -- a later object of the name is there, and comes before the head
        have hsome : lastExternal? rest head.name ≠ none := by
          intro hnone
          rw [lastExternal?_eq_none_iff.mp hnone] at hlater
          cases hlater
        obtain ⟨later, hlast⟩ := Option.ne_none_iff_exists'.mp hsome
        rw [hlast] at ih ⊢
        exact ih
      | false => simp [lastExternal?_eq_none_iff.mpr hlater]
    · split <;> simp [hname, ih]

theorem mem_collectExternals_iff {externals : List External} {external : External} :
    external ∈ collectExternals externals ↔
      lastExternal? externals external.name = some external := by
  constructor
  · intro h
    induction externals with
    | nil => cases h
    | cons head rest ih =>
      rw [lastExternal?_cons]
      unfold collectExternals at h
      split at h
      · rw [ih h]
        rfl
      · next hlater =>
        rcases List.mem_cons.mp h with rfl | h
        · rw [lastExternal?_eq_none_iff.mpr (Bool.eq_false_iff.mpr hlater), if_pos rfl]
          rfl
        · rw [ih h]
          rfl
  · intro h
    rw [← find?_collectExternals] at h
    exact List.mem_of_find?_eq_some h

/-! ## The first error -/

theorem undeclared_of_undeclared? {schema : Schema} {mention : Mention} {error : SchemaError}
    (h : schema.undeclared? mention = some error) : mention.type.Undeclared schema.classes := by
  obtain ⟨holder, type | name⟩ := mention
  · cases h
  · intro hdeclared
    have hclass : schema.class? name ≠ none := by
      rw [class?, Ne, findClass?_eq_none_iff]
      exact not_not_intro hdeclared
    obtain ⟨decl, hclass⟩ := Option.ne_none_iff_exists'.mp hclass
    simp [undeclared?, hclass] at h

/-- If one element at most gives something, it is found in any order. -/
theorem findSome?_eq_of_mem_iff {α β : Type} {f : α → Option β} {as bs : List α}
    (hmem : ∀ a, a ∈ as ↔ a ∈ bs)
    (hone : ∀ a ∈ as, ∀ b ∈ as, (f a).isSome → (f b).isSome → a = b) :
    as.findSome? f = bs.findSome? f := by
  cases hfound : as.findSome? f with
  | none =>
    rw [List.findSome?_eq_none_iff] at hfound
    exact (List.findSome?_eq_none_iff.mpr fun b hb => hfound b ((hmem b).mpr hb)).symm
  | some found =>
    obtain ⟨a, ha, hfa⟩ := List.exists_of_findSome?_eq_some hfound
    have hsome : (bs.findSome? f).isSome := by
      rw [List.findSome?_isSome_iff]
      exact ⟨a, (hmem a).mp ha, by simp [hfa]⟩
    obtain ⟨other, hother⟩ := Option.isSome_iff_exists.mp hsome
    obtain ⟨b, hb, hfb⟩ := List.exists_of_findSome?_eq_some hother
    have hab : a = b := hone a ha b ((hmem b).mpr hb) (by simp [hfa]) (by simp [hfb])
    rw [hother, ← hfa, ← hfb, hab]

theorem ofDeclarations_eq {decls : Declarations} {classes : List ClassDecl}
    (h : collectClasses [] decls.classes = .ok classes) :
    ofDeclarations decls =
      match findClass? classes decls.topLevel with
      | none => .error (.unknownTopLevel decls.topLevel)
      | some topLevel =>
        let schema : Schema :=
          ⟨topLevel, classes, decls.functions, collectExternals decls.externals⟩
        match schema.mentions.findSome? schema.undeclared? with
        | some error => .error error
        | none => .ok schema := by
  rw [ofDeclarations, h]
  simp only [bind, Except.bind]
  cases findClass? classes decls.topLevel <;> rfl

/-- Two schemas with the same classes and functions report the same error, if their external objects
are the same ones and one type at most is undeclared among them. -/
theorem findSome?_mentions_eq (topLevel : ClassDecl) {classes : List ClassDecl}
    (functions : List TopLevelFunction) {as bs : List External} (hmem : ∀ a, a ∈ as ↔ a ∈ bs)
    (hone : ∀ a ∈ as, ∀ b ∈ as, a.type.Undeclared classes → b.type.Undeclared classes → a = b) :
    (Schema.mk topLevel classes functions as).mentions.findSome?
        (Schema.mk topLevel classes functions as).undeclared? =
      (Schema.mk topLevel classes functions bs).mentions.findSome?
        (Schema.mk topLevel classes functions bs).undeclared? := by
  have hsame : (Schema.mk topLevel classes functions bs).undeclared? =
      (Schema.mk topLevel classes functions as).undeclared? := rfl
  rw [hsame]
  simp only [mentions, List.findSome?_append, List.findSome?_map]
  congr 1
  refine findSome?_eq_of_mem_iff hmem fun a ha b hb herror herror' => ?_
  obtain ⟨error, herror⟩ := Option.isSome_iff_exists.mp herror
  obtain ⟨error', herror'⟩ := Option.isSome_iff_exists.mp herror'
  exact hone a ha b hb (undeclared_of_undeclared? herror) (undeclared_of_undeclared? herror')

end Schema

/-! ## What can be asked of a schema -/

/-- Two schemas give the same answers: about their top-level classes, and about the class, the
top-level functions and the external object of every name. -/
structure Schema.Alike (a b : Schema) : Prop where
  topLevel : a.topLevel = b.topLevel
  class? : ∀ name, a.class? name = b.class? name
  overloads : ∀ name, a.overloads name = b.overloads name
  external? : ∀ name, a.external? name = b.external? name

namespace Schema.Alike

variable {a b : Schema} (h : a.Alike b)
include h

theorem typeOf : a.typeOf = b.typeOf := by
  funext ref
  cases ref with
  | inline type => rfl
  | named name => rw [Schema.typeOf, Schema.typeOf, h.class?]

theorem lookupValue (name : String) (span : Span) (scopes : List Scope) :
    a.lookupValue name span scopes = b.lookupValue name span scopes := by
  induction scopes with
  | nil => rw [Schema.lookupValue, Schema.lookupValue, h.external?]
  | cons scope outer ih => rw [Schema.lookupValue, Schema.lookupValue, h.typeOf, ih]

theorem lookupProperty (name : String) (scopes : List Scope) :
    a.lookupProperty name scopes = b.lookupProperty name scopes := by
  induction scopes with
  | nil => rfl
  | cons scope outer ih => rw [Schema.lookupProperty, Schema.lookupProperty, h.typeOf, ih]

theorem argumentTypes (arguments : List (Option Origin)) :
    a.argumentTypes arguments = b.argumentTypes arguments := by
  induction arguments with
  | nil => rfl
  | cons argument rest ih =>
    cases argument with
    | none => rw [Schema.argumentTypes, Schema.argumentTypes, ih]
    | some origin => rw [Schema.argumentTypes, Schema.argumentTypes, h.typeOf, ih]

theorem acceptsEach (parameters : List Parameter) (types : List (Option Ty)) :
    a.acceptsEach parameters types = b.acceptsEach parameters types := by
  fun_induction Schema.acceptsEach a parameters types with
  | case1 parameter parameters arguments ih => rw [Schema.acceptsEach, ih]
  | case2 parameter parameters arguments type ih => rw [Schema.acceptsEach, h.typeOf, ih]
  | case3 _ _ hended =>
    rw [Schema.acceptsEach]
    exact hended

theorem accepts : a.accepts = b.accepts := by
  funext parameters types
  rw [Schema.accepts, Schema.accepts, h.acceptsEach]

theorem memberOverload (decl : ClassDecl) (name : String) (types : List (Option Ty)) :
    a.memberOverload decl name types = b.memberOverload decl name types := by
  rw [Schema.memberOverload, Schema.memberOverload, h.accepts]

theorem topLevelOverload (name : String) (types : List (Option Ty)) :
    a.topLevelOverload name types = b.topLevelOverload name types := by
  rw [Schema.topLevelOverload, Schema.topLevelOverload, h.accepts, h.overloads]

theorem lookupFunction (name : String) (types : List (Option Ty)) (scopes : List Scope) :
    a.lookupFunction name types scopes = b.lookupFunction name types scopes := by
  induction scopes with
  | nil => rw [Schema.lookupFunction, Schema.lookupFunction, h.topLevelOverload]
  | cons scope outer ih =>
    simp only [Schema.lookupFunction, h.typeOf, h.memberOverload, ih]

end Schema.Alike

namespace Resolver

open Analysis

variable {a b : Schema}

mutual

theorem resolveTarget_alike (h : a.Alike b) :
    (access : Access) → resolveTarget a access = resolveTarget b access
  | ⟨none, name, span⟩ => by
    simp only [resolveTarget, implicitTarget, h.lookupProperty]
  | ⟨some receiver, name, span⟩ => by
    simp only [resolveTarget, memberTarget, h.typeOf, resolveExpr_alike h receiver]

theorem resolveExpr_alike (h : a.Alike b) : (expr : Expr) → resolveExpr a expr = resolveExpr b expr
  | .literal _ _ | .null _ | .this _ => by simp only [resolveExpr]
  | .access access => by
    simp only [resolveExpr, implicitValue, h.lookupValue, resolveTarget_alike h access]
  | .call call => by simp only [resolveExpr, resolveCall_alike h call]

theorem resolveCall_alike (h : a.Alike b) : (call : Call) → resolveCall a call = resolveCall b call
  | ⟨receiver, name, arguments, block, span⟩ => by
    simp only [resolveCall, findCallee, h.argumentTypes, h.lookupFunction, h.typeOf,
      h.memberOverload, resolveReceiver_alike h receiver, resolveArguments_alike h arguments,
      resolveConfigured_alike h _ block]

theorem resolveReceiver_alike (h : a.Alike b) :
    (receiver : Option Expr) → resolveReceiver a receiver = resolveReceiver b receiver
  | none => by simp only [resolveReceiver]
  | some receiver => by simp only [resolveReceiver, resolveExpr_alike h receiver]

theorem resolveArguments_alike (h : a.Alike b) :
    (arguments : List Expr) → resolveArguments a arguments = resolveArguments b arguments
  | [] => by simp only [resolveArguments]
  | argument :: rest => by
    simp only [resolveArguments, resolveExpr_alike h argument, resolveArguments_alike h rest]

theorem resolveConfigured_alike (h : a.Alike b) (configured : Option Origin) :
    (block : Option Block) →
    resolveConfigured a configured block = resolveConfigured b configured block
  | none => by simp only [resolveConfigured]
  | some block => by simp only [resolveConfigured, resolveBlock_alike h block]

theorem resolveStatement_alike (h : a.Alike b) :
    (statement : Statement) → resolveStatement a statement = resolveStatement b statement
  | .assign target value span => by
    simp only [resolveStatement, assign, h.typeOf, resolveTarget_alike h target,
      resolveExpr_alike h value]
  | .val name value span => by simp only [resolveStatement, resolveExpr_alike h value]
  | .expr expr => by simp only [resolveStatement, resolveExpr_alike h expr]

theorem resolveStatements_alike (h : a.Alike b) :
    (statements : List Statement) → resolveStatements a statements = resolveStatements b statements
  | [] => by simp only [resolveStatements]
  | statement :: rest => by
    simp only [resolveStatements, resolveStatement_alike h statement,
      resolveStatements_alike h rest]

theorem resolveBlock_alike (h : a.Alike b) :
    (block : Block) → resolveBlock a block = resolveBlock b block
  | ⟨statements, span⟩ => by simp only [resolveBlock, resolveStatements_alike h statements]

end

end Resolver

theorem Resolution.ofDocument_alike {a b : Schema} (h : a.Alike b) (document : Block) :
    ofDocument a document = ofDocument b document := by
  rw [ofDocument, ofDocument, h.topLevel, Resolver.resolveBlock_alike h document]

namespace Schema

theorem Alike.of_externals {topLevel : ClassDecl} {classes : List ClassDecl}
    {functions : List TopLevelFunction} {externals externals' : List External}
    (h : ∀ name, lastExternal? externals name = lastExternal? externals' name) :
    Alike ⟨topLevel, classes, functions, collectExternals externals⟩
      ⟨topLevel, classes, functions, collectExternals externals'⟩ where
  topLevel := rfl
  class? _ := rfl
  overloads _ := rfl
  external? name := by
    calc (collectExternals externals).find? (·.name == name)
      _ = lastExternal? externals name := find?_collectExternals externals name
      _ = lastExternal? externals' name := h name
      _ = (collectExternals externals').find? (·.name == name) :=
        (find?_collectExternals externals' name).symm

/-- Classes with different names may be declared in any order, and external objects may be looked at
in any order as long as the same one is the last of each name and one type at most is undeclared
among them. The declarations are refused with the same error, or the schemas give the same answers
and every document resolves alike. -/
theorem ofDeclarations_reorder {topLevel : QualifiedName} {classes classes' : List ClassDecl}
    {functions : List TopLevelFunction} {externals externals' : List External}
    (hnames : (classes.map (·.name)).Nodup)
    (hone : ∀ a ∈ externals, ∀ b ∈ externals, a.type.Undeclared classes →
      b.type.Undeclared classes → a = b)
    (hclasses : classes.Perm classes')
    (hexternals : ∀ name, lastExternal? externals name = lastExternal? externals' name) :
    (∃ error, ofDeclarations ⟨topLevel, classes, functions, externals⟩ = .error error ∧
      ofDeclarations ⟨topLevel, classes', functions, externals'⟩ = .error error) ∨
    ∃ schema schema', ofDeclarations ⟨topLevel, classes, functions, externals⟩ = .ok schema ∧
      ofDeclarations ⟨topLevel, classes', functions, externals'⟩ = .ok schema' ∧
      schema.Alike schema' ∧ ∀ document,
        Resolution.ofDocument schema document = Resolution.ofDocument schema' document := by
  obtain ⟨sorted, hsorted, hsorted', hperm⟩ := exists_collectClasses_of_perm hnames hclasses
  rw [ofDeclarations_eq hsorted, ofDeclarations_eq hsorted']
  cases findClass? sorted topLevel with
  | none => exact .inl ⟨_, rfl, rfl⟩
  | some top =>
    -- only the order of the mentions can differ, and `hone` leaves no choice of the first error
    have hmem (external : External) :
        external ∈ collectExternals externals ↔ external ∈ collectExternals externals' := by
      rw [mem_collectExternals_iff, mem_collectExternals_iff, hexternals]
    have hundeclared {ref : TypeRef} (h : ref.Undeclared sorted) : ref.Undeclared classes := by
      cases ref with
      | inline type => exact h
      | named name => exact fun hname => h ((hperm.map _).mem_iff.mpr hname)
    have herrors := findSome?_mentions_eq top functions hmem fun a ha b hb h h' =>
      hone a (mem_collectExternals ha) b (mem_collectExternals hb) (hundeclared h) (hundeclared h')
    simp only [herrors]
    split
    · next error _ => exact .inl ⟨error, rfl, rfl⟩
    · exact .inr ⟨_, _, rfl, rfl, .of_externals hexternals,
        Resolution.ofDocument_alike (.of_externals hexternals)⟩

end Schema

namespace Sample

def desk : ClassDecl :=
  ⟨⟨"", "Desk"⟩, .empty, [⟨"tray", .named ⟨"", "Tray"⟩, false, false, false⟩], []⟩

def lamp : ClassDecl :=
  ⟨⟨"", "Lamp"⟩, .empty, [⟨"bulb", .named ⟨"", "Bulb"⟩, false, false, false⟩], []⟩

def tray : ClassDecl := ⟨⟨"", "Tray"⟩, .empty, [], []⟩

def bulb : ClassDecl := ⟨⟨"", "Bulb"⟩, .empty, [], []⟩

def window : External := ⟨"window", .inline (.scalar .boolean)⟩

def door : External := ⟨"door", .named ⟨"", "Door"⟩⟩

end Sample

open Sample in
theorem Schema.sample_ofDeclarations_reorder :
    [lamp, desk, bulb, tray].Perm [tray, bulb, desk, lamp] ∧
    (∃ schema schema',
      ofDeclarations ⟨desk.name, [lamp, desk, bulb, tray], [], [window]⟩ = .ok schema ∧
      ofDeclarations ⟨desk.name, [tray, bulb, desk, lamp], [], [window]⟩ = .ok schema' ∧
      schema.Alike schema' ∧
      ∀ document, Resolution.ofDocument schema document = Resolution.ofDocument schema' document) ∧
    door.type.Undeclared [lamp, desk] ∧
    ∃ error, error = .undeclaredType ⟨"", "Tray"⟩ "Desk.tray" ∧
      ofDeclarations ⟨desk.name, [lamp, desk], [], [window, door]⟩ = .error error ∧
      ofDeclarations ⟨desk.name, [desk, lamp], [], [door, window]⟩ = .error error := by
  have hperm : [lamp, desk, bulb, tray].Perm [tray, bulb, desk, lamp] := by decide
  refine ⟨hperm, ?_, by simp [TypeRef.Undeclared, door, lamp, desk], ?_⟩
  · have hone : ∀ a ∈ [window], ∀ b ∈ [window], a.type.Undeclared [lamp, desk, bulb, tray] →
        b.type.Undeclared [lamp, desk, bulb, tray] → a = b := by
      simp
    rcases @ofDeclarations_reorder desk.name _ _ [] _ [window] (by decide) hone hperm (fun _ => rfl)
      with ⟨error, h, -⟩ | h
    · cases h
    · exact h
  · have hone : ∀ a ∈ [window, door], ∀ b ∈ [window, door], a.type.Undeclared [lamp, desk] →
        b.type.Undeclared [lamp, desk] → a = b := by
      simp [TypeRef.Undeclared, window]
    have hexternals (name : String) :
        lastExternal? [window, door] name = lastExternal? [door, window] name := by
      by_cases hname : window.name = name
      · subst hname
        rfl
      · simp [lastExternal?_cons, hname, show lastExternal? [] name = none from rfl]
    rcases @ofDeclarations_reorder desk.name _ _ [] _ _ (by decide) hone (.swap desk lamp [])
      hexternals with ⟨error, h, h'⟩ | ⟨_, _, h, -⟩
    · exact ⟨error, by cases h; rfl, h, h'⟩
    · cases h

end ConfigScope
