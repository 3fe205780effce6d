/-!
# Qualified names

A class is named by a package and a simple name, written with a dot between
them. Reading splits at the last dot, so the package may itself hold dots
and a text without one is a simple name in the unnamed package.

Names are ordered by package, then by simple name, each by code point:
`before` is a strict order that compares any two names.
-/

namespace ConfigScope

structure QualifiedName where
  package : String
  simple : String
  deriving DecidableEq, Inhabited

namespace QualifiedName

/-- The characters before and after the last dot. -/
def splitAtLastDot : List Char → Option (List Char × List Char)
  | [] => none
  | c :: rest =>
    match splitAtLastDot rest with
    | some (before, after) => some (c :: before, after)
    | none => if c = '.' then some ([], rest) else none

def parse (text : String) : QualifiedName :=
  match splitAtLastDot text.toList with
  | some (before, after) => ⟨String.ofList before, String.ofList after⟩
  | none => ⟨"", text⟩

/-- The unnamed package is left out, and so is the dot after it. -/
def render (name : QualifiedName) : String :=
  if name.package = "" then name.simple else name.package ++ "." ++ name.simple

def before (a b : QualifiedName) : Bool :=
  if a.package = b.package then a.simple < b.simple else a.package < b.package

/-- The names in their order, equal ones as often as they are given. -/
def sort (names : List QualifiedName) : List QualifiedName :=
  names.mergeSort fun a b => !b.before a

theorem before_irrefl (a : QualifiedName) : a.before a = false := by
  rw [before, if_pos rfl]
  exact decide_eq_false (String.lt_irrefl a.simple)

theorem before_trans {a b c : QualifiedName} (hab : a.before b = true)
    (hbc : b.before c = true) : a.before c = true := by
  unfold before at *
  grind [String.lt_trans, String.lt_asymm]

theorem before_asymm {a b : QualifiedName} (hab : a.before b = true) : ¬ b.before a = true := by
  intro hba
  have hself := before_trans hab hba
  rw [before_irrefl] at hself
  cases hself

theorem eq_or_before_or_before (a b : QualifiedName) :
    a = b ∨ a.before b = true ∨ b.before a = true := by
  have total : ∀ s t : String, s = t ∨ s < t ∨ t < s := by
    intro s t
    by_cases hst : s < t
    · exact .inr (.inl hst)
    by_cases hts : t < s
    · exact .inr (.inr hts)
    exact .inl (String.le_antisymm (String.not_lt.mp hts) (String.not_lt.mp hst))
  obtain ⟨p, s⟩ := a
  obtain ⟨q, t⟩ := b
  have hp := total p q
  have hs := total s t
  simp only [before, QualifiedName.mk.injEq]
  grind

end QualifiedName

end ConfigScope
