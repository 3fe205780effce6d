import ConfigScope.Ty.Basic

/-!
# Names and types as texts

A name is read back from its text exactly if the simple name holds no dot, because
reading splits at the last one (`QualifiedName.parse_render_eq_iff`). A text is written
back as it was, but for a text whose only dot is its first character: the unnamed
package takes the dot with it (`QualifiedName.text_roundTrip`).

A reference to a type is read back as well, unless it holds a class inline or names one
like a built-in type (`TypeRef.parse_render`).
-/

namespace ConfigScope

namespace QualifiedName

def DotFree (name : QualifiedName) : Prop := '.' ∉ name.simple.toList

theorem splitAtLastDot_eq_none {chars : List Char} (h : '.' ∉ chars) :
    splitAtLastDot chars = none := by
  induction chars with
  | nil => rfl
  | cons c rest ih =>
    simp only [List.mem_cons, not_or] at h
    rw [splitAtLastDot, ih h.2]
    exact if_neg (Ne.symm h.1)

theorem splitAtLastDot_append {before after : List Char} (h : '.' ∉ after) :
    splitAtLastDot (before ++ '.' :: after) = some (before, after) := by
  induction before with
  | nil => rw [List.nil_append, splitAtLastDot, splitAtLastDot_eq_none h, if_pos rfl]
  | cons c rest ih => rw [List.cons_append, splitAtLastDot, ih]

theorem parse_render {name : QualifiedName} (h : name.DotFree) : parse name.render = name := by
  obtain ⟨package, simple⟩ := name
  by_cases hpackage : package = ""
  · subst hpackage
    rw [render, if_pos rfl, parse, splitAtLastDot_eq_none h]
  · have htext : (package ++ "." ++ simple).toList = package.toList ++ '.' :: simple.toList := by
      simp
    rw [render, if_neg hpackage, parse, htext, splitAtLastDot_append h]
    simp

theorem not_mem_of_splitAtLastDot {chars : List Char} (h : splitAtLastDot chars = none) :
    '.' ∉ chars := by
  induction chars with
  | nil => simp
  | cons c rest ih =>
    cases hrest : splitAtLastDot rest with
    | some parts => simp [splitAtLastDot, hrest] at h
    | none =>
      have hc : c ≠ '.' := by
        rintro rfl
        simp [splitAtLastDot, hrest] at h
      simp [ih hrest, Ne.symm hc]

theorem eq_append_of_splitAtLastDot {chars before after : List Char}
    (h : splitAtLastDot chars = some (before, after)) :
    chars = before ++ '.' :: after ∧ '.' ∉ after := by
  induction chars generalizing before with
  | nil => cases h
  | cons c rest ih =>
    cases hrest : splitAtLastDot rest with
    | some parts =>
      -- the last dot is a later one, and `c` goes in front
      simp only [splitAtLastDot, hrest, Option.some.injEq, Prod.mk.injEq] at h
      obtain ⟨rfl, rfl⟩ := h
      obtain ⟨heq, hafter⟩ := ih hrest
      exact ⟨congrArg (c :: ·) heq, hafter⟩
    | none =>
      simp only [splitAtLastDot, hrest, Option.ite_none_right_eq_some, Option.some.injEq,
        Prod.mk.injEq] at h
      obtain ⟨rfl, rfl, rfl⟩ := h
      exact ⟨rfl, not_mem_of_splitAtLastDot hrest⟩

/-- A text holds no dot and is read as a simple name, or it is split at its last dot. -/
theorem parse_cases (text : String) :
    ('.' ∉ text.toList ∧ parse text = ⟨"", text⟩) ∨
    ∃ package simple : String, '.' ∉ simple.toList ∧ text = package ++ "." ++ simple ∧
      parse text = ⟨package, simple⟩ := by
  cases hsplit : splitAtLastDot text.toList with
  | none => exact .inl ⟨not_mem_of_splitAtLastDot hsplit, by rw [parse, hsplit]⟩
  | some parts =>
    obtain ⟨before, after⟩ := parts
    obtain ⟨htext, hafter⟩ := eq_append_of_splitAtLastDot hsplit
    refine .inr ⟨String.ofList before, String.ofList after, by simpa using hafter, ?_, ?_⟩
    · rw [← String.toList_inj, htext]
      simp
    · rw [parse, hsplit]

theorem dotFree_parse (text : String) : (parse text).DotFree := by
  obtain ⟨htext, hparse⟩ | ⟨package, simple, hsimple, -, hparse⟩ := parse_cases text
  · rw [hparse]
    exact htext
  · rw [hparse]
    exact hsimple

theorem parse_render_eq_iff (name : QualifiedName) : parse name.render = name ↔ name.DotFree := by
  constructor
  · intro h
    rw [← h]
    exact dotFree_parse name.render
  · exact parse_render

theorem render_parse_eq_self {text : String}
    (h : ∀ rest : String, '.' ∉ rest.toList → text ≠ "." ++ rest) : (parse text).render = text := by
  obtain ⟨-, hparse⟩ | ⟨package, simple, hsimple, rfl, hparse⟩ := parse_cases text
  · rw [hparse, render, if_pos rfl]
  · have hpackage : package ≠ "" := by
      rintro rfl
      exact h simple hsimple (by simp)
    rw [hparse, render, if_neg hpackage]

theorem render_parse_dot {rest : String} (h : '.' ∉ rest.toList) :
    (parse ("." ++ rest)).render = rest := by
  have htext : ("." ++ rest).toList = [] ++ '.' :: rest.toList := by simp
  rw [parse, htext, splitAtLastDot_append h]
  simp [render]

/-- Reading undoes writing exactly on the names whose simple name holds no dot. Writing undoes
reading, but for the texts that have a dot in front and no other, which lose it. What is read from
a text is read again from what is written for it, so two names that were read are written alike
only if they are the same. -/
theorem text_roundTrip :
    (∀ name : QualifiedName, parse name.render = name ↔ '.' ∉ name.simple.toList) ∧
    (∀ text : String, (∀ rest : String, '.' ∉ rest.toList → text ≠ "." ++ rest) →
      (parse text).render = text) ∧
    (∀ rest : String, '.' ∉ rest.toList → (parse ("." ++ rest)).render = rest) ∧
    (∀ text : String, parse (parse text).render = parse text) ∧
    ∀ text other : String, (parse text).render = (parse other).render →
      parse text = parse other := by
  have again (text : String) : parse (parse text).render = parse text :=
    parse_render (dotFree_parse text)
  refine ⟨parse_render_eq_iff, fun _ => render_parse_eq_self, fun _ => render_parse_dot, again, ?_⟩
  intro text other h
  rw [← again text, h, again other]

theorem sample_text_roundTrip :
    ((∀ rest : String, '.' ∉ rest.toList → "..a" ≠ "." ++ rest) ∧ (parse "..a").render = "..a") ∧
    ('.' ∉ "a".toList ∧ (parse ("." ++ "a")).render = "a") ∧
    parse (render ⟨"p", "a.b"⟩) ≠ ⟨"p", "a.b"⟩ := by
  obtain ⟨hname, htext, hdot, -, -⟩ := text_roundTrip
  have hdots : ∀ rest : String, '.' ∉ rest.toList → "..a" ≠ "." ++ rest := by
    intro rest hrest heq
    have hchars : rest.toList = ['.', 'a'] := by simpa using (congrArg String.toList heq).symm
    simp [hchars] at hrest
  have hplain : '.' ∉ "a".toList := by simp
  refine ⟨⟨hdots, htext "..a" hdots⟩, ⟨hplain, hdot "a" hplain⟩, fun h => ?_⟩
  exact (hname ⟨"p", "a.b"⟩).mp h (by simp)

end QualifiedName

/-! ## References -/

def builtinTexts : List String := ["Int", "Long", "String", "Boolean", "Unit", "Null"]

theorem Ty.builtin?_eq_none {text : String} (h : text ∉ builtinTexts) :
    Ty.builtin? text = none := by
  unfold Ty.builtin?
  split <;> simp [builtinTexts] at h ⊢

/-- A reference that a text can hold: a built-in type, or a name that no built-in type has. -/
def TypeRef.Writable : TypeRef → Prop
  | .inline type => type.class? = none
  | .named name => name.DotFree ∧ name.render ∉ builtinTexts

theorem TypeRef.parse_render {ref : TypeRef} (h : ref.Writable) :
    TypeRef.parse ref.render = ref := by
  cases ref with
  | inline type =>
    cases type with
    | object decl => cases h
    | scalar s => cases s <;> rfl
    | null | unit => rfl
  | named name =>
    rw [TypeRef.parse, TypeRef.render, Ty.builtin?_eq_none h.2, QualifiedName.parse_render h.1]

end ConfigScope
