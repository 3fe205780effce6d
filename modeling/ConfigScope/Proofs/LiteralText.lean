import ConfigScope.Origin.Basic

/-!
# Literals and their texts

No two literals share a text. Between quotes a character has one of three
spellings: a short escape, its code point, or itself. Which of the last two it has
is up to a table of printable characters, but reading does not need the table: where
a spelling ends can be told from the spelling alone (`Spells.cancel`), and so can
the characters of a quoted text and where the text ends (`SpellsAll.cancel`). The
kinds of literals are told apart by characters that only some of their texts hold
(`kindOf_render`).
-/

namespace ConfigScope.Text

/-! ## Digits -/

theorem eq_of_digitChar_eq {m n : Nat} (hm : m < 16) (hn : n < 16)
    (h : m.digitChar = n.digitChar) : m = n := by
  have hall : ∀ a b : Fin 16, a.val.digitChar = b.val.digitChar → a = b := by decide
  exact congrArg Fin.val (hall ⟨m, hm⟩ ⟨n, hn⟩ h)

theorem toDigits_injective {base m n : Nat} (hbase : 1 < base) (hle : base ≤ 16)
    (h : Nat.toDigits base m = Nat.toDigits base n) : m = n := by
  -- the last digit gives the remainder, and those before it are the digits of the quotient
  induction m using Nat.strongRecOn generalizing n with
  | ind m ih =>
    have hdigits (k : Nat) : Nat.toDigits base k =
        if k < base then [k.digitChar]
        else Nat.toDigits base (k / base) ++ [(k % base).digitChar] := Nat.toDigits_eq_if hbase
    rw [hdigits m, hdigits n] at h
    split at h <;> split at h
    next hm hn =>
      exact eq_of_digitChar_eq (by omega) (by omega) (List.singleton_inj.mp h)
    next => simpa [Nat.toDigits_ne_nil] using congrArg List.length h
    next => simpa [Nat.toDigits_ne_nil] using congrArg List.length h
    next hm hn =>
      obtain ⟨hquotient, hlast⟩ := List.append_inj' h rfl
      have hlt (k : Nat) : k % base < base := Nat.mod_lt k (by omega)
      have hdiv : m / base = n / base :=
        ih (m / base) (Nat.div_lt_self (by omega) hbase) hquotient
      have hmod : m % base = n % base :=
        eq_of_digitChar_eq (Nat.lt_of_lt_of_le (hlt m) hle) (Nat.lt_of_lt_of_le (hlt n) hle)
          (List.singleton_inj.mp hlast)
      rw [← Nat.div_add_mod m base, hdiv, hmod, Nat.div_add_mod]

theorem brace_not_mem_hexDigits (n : Nat) : '\x7d' ∉ hexDigits n := by
  have hdigit (k : Nat) : '\x7d' ≠ k.digitChar := (Nat.digitChar_ne '\x7d' (by decide)).symm
  unfold hexDigits
  induction n using Nat.strongRecOn with
  | ind n ih =>
    rw [Nat.toDigits_eq_if (by decide)]
    split
    · exact mt List.mem_singleton.mp (hdigit n)
    · rw [List.mem_append, List.mem_singleton, not_or]
      exact ⟨ih (n / 16) (by omega), hdigit (n % 16)⟩

/-! ## Spellings -/

/-- The characters with a short escape, and what stands for them after the backslash. -/
def shortEscapes : List (Char × Char) :=
  [('\t', 't'), ('\r', 'r'), ('\n', 'n'), ('\x00', '0'), ('"', '"'), ('\\', '\\')]

def HasShortEscape (c : Char) : Prop := c ∈ shortEscapes.map Prod.fst

instance (c : Char) : Decidable (HasShortEscape c) :=
  inferInstanceAs (Decidable (c ∈ shortEscapes.map Prod.fst))

/-- How a character is written between quotes. -/
inductive Spells (printable : Char → Bool) : Char → List Char → Prop
  | short {c mark} : (c, mark) ∈ shortEscapes → Spells printable c ['\\', mark]
  | plain {c} : ¬HasShortEscape c → printable c = true → Spells printable c [c]
  | code {c} : ¬HasShortEscape c → printable c = false →
      Spells printable c (['\\', 'u', '\x7b'] ++ hexDigits c.toNat ++ ['\x7d'])

inductive SpellsAll (printable : Char → Bool) : List Char → List Char → Prop
  | nil : SpellsAll printable [] []
  | cons {c cs chars rest} : Spells printable c chars → SpellsAll printable cs rest →
      SpellsAll printable (c :: cs) (chars ++ rest)

theorem spells_escapeChar (c : Char) : Spells isVisible c (escapeChar c) := by
  unfold escapeChar
  split
  case h_7 hnul htab hreturn hline hbackslash hquote =>
    have hlong : ¬HasShortEscape c := by simp_all [HasShortEscape, shortEscapes]
    split
    next hvisible => exact .plain hlong hvisible
    next hhidden => exact .code hlong (by simpa using hhidden)
  all_goals exact .short (by decide)

theorem spellsAll_flatMap_escapeChar (cs : List Char) :
    SpellsAll isVisible cs (cs.flatMap escapeChar) := by
  induction cs with
  | nil => exact .nil
  | cons c cs ih => exact .cons (spells_escapeChar c) ih

/-! ## Reading them back -/

theorem eq_of_mem_shortEscapes {c d mark : Char} (hc : (c, mark) ∈ shortEscapes)
    (hd : (d, mark) ∈ shortEscapes) : c = d := by
  have hall : ∀ e ∈ shortEscapes, ∀ f ∈ shortEscapes, e.2 = f.2 → e.1 = f.1 := by decide
  exact hall _ hc _ hd rfl

theorem mark_ne_u {c mark : Char} (h : (c, mark) ∈ shortEscapes) : mark ≠ 'u' := by
  have hall : ∀ e ∈ shortEscapes, e.2 ≠ 'u' := by decide
  exact hall _ h

theorem append_mark_cancel {mark : Char} {a b s t : List Char} (ha : mark ∉ a) (hb : mark ∉ b)
    (h : a ++ mark :: s = b ++ mark :: t) : a = b ∧ s = t := by
  induction a generalizing b with
  | nil =>
    cases b with
    | nil => simpa using h
    | cons d b => grind
  | cons c a ih =>
    cases b with
    | nil => grind
    | cons d b =>
      obtain ⟨rfl, htail⟩ := List.cons.inj h
      obtain ⟨rfl, hrest⟩ :=
        ih (List.not_mem_of_not_mem_cons ha) (List.not_mem_of_not_mem_cons hb) htail
      exact ⟨rfl, hrest⟩

variable {printable other : Char → Bool} {c d : Char} {chars chars' s t cs ds : List Char}

/-- A spelling that stands in front can be told without looking at what follows, even if it is not
known which characters were taken as printable. -/
theorem Spells.cancel (hc : Spells printable c chars) (hd : Spells other d chars')
    (h : chars ++ s = chars' ++ t) : c = d ∧ s = t := by
  -- different kinds of spellings differ in their first two characters: no plain character is a
  -- backslash, and no short escape has `u` after it
  have hbackslash : HasShortEscape '\\' := by decide
  cases hc with
  | short hc =>
    cases hd with
    | short hd =>
      obtain ⟨rfl, hrest⟩ : _ = _ ∧ s = t := by simpa using h
      exact ⟨eq_of_mem_shortEscapes hc hd, hrest⟩
    | plain hd => grind
    | code => grind [mark_ne_u hc]
  | plain hc =>
    cases hd with
    | short => grind
    | plain => simpa using h
    | code => grind
  | code hc =>
    cases hd with
    | short hd => grind [mark_ne_u hd]
    | plain hd => grind
    | code =>
      have hdigits : hexDigits c.toNat ++ '\x7d' :: s = hexDigits d.toNat ++ '\x7d' :: t := by
        simpa using h
      obtain ⟨hcode, hrest⟩ :=
        append_mark_cancel (brace_not_mem_hexDigits _) (brace_not_mem_hexDigits _) hdigits
      exact ⟨Char.toNat_inj.mp (toDigits_injective (by decide) (by decide) hcode), hrest⟩

theorem Spells.ne_quote (h : Spells printable c chars) : chars ++ s ≠ '"' :: t := by
  have hquote : HasShortEscape '"' := by decide
  cases h <;> grind

theorem SpellsAll.cancel (hcs : SpellsAll printable cs chars) (hds : SpellsAll other ds chars')
    (h : chars ++ '"' :: s = chars' ++ '"' :: t) : cs = ds ∧ s = t := by
  induction hcs generalizing ds chars' with
  | nil =>
    cases hds with
    | nil => simpa using h
    | cons hd _ => exact absurd (h.trans (List.append_assoc ..)).symm hd.ne_quote
  | cons hc _ ih =>
    cases hds with
    | nil => exact absurd ((List.append_assoc ..).symm.trans h) hc.ne_quote
    | cons hd hds =>
      rw [List.append_assoc, List.append_assoc] at h
      obtain ⟨rfl, hrest⟩ := hc.cancel hd h
      obtain ⟨rfl, hend⟩ := ih hds hrest
      exact ⟨rfl, hend⟩

theorem SpellsAll.unique (hcs : SpellsAll printable cs chars) (hds : SpellsAll other ds chars) :
    cs = ds :=
  (hcs.cancel hds (rfl : chars ++ ['"'] = chars ++ ['"'])).1

theorem quote_injective {text text' : String} (h : quote text = quote text') : text = text' := by
  obtain ⟨-, hchars⟩ := List.cons.inj (String.ofList_injective h)
  obtain ⟨htext, -⟩ := (spellsAll_flatMap_escapeChar text.toList).cancel
    (spellsAll_flatMap_escapeChar text'.toList) hchars
  exact String.toList_inj.mp htext

end ConfigScope.Text

namespace ConfigScope.Literal

/-! ## Literals -/

theorem isDigit_of_mem_repr {n : Nat} {c : Char} (h : c ∈ n.repr.toList) : c.isDigit = true :=
  Nat.isDigit_of_mem_toDigits (by decide) (by decide) (Nat.toList_repr ▸ h)

theorem mem_repr_int {value : Int} {c : Char} (h : c ∈ value.repr.toList) :
    c = '-' ∨ c.isDigit = true := by
  rw [Int.repr_eq_if] at h
  split at h
  · exact .inr (isDigit_of_mem_repr h)
  · rw [String.toList_append, List.mem_append] at h
    exact h.imp List.mem_singleton.mp isDigit_of_mem_repr

theorem repr_int_injective {m n : Int} (h : m.repr = n.repr) : m = n := by
  have hnat {a b : Nat} (h : a.repr = b.repr) : a = b := by
    have hdigits : Nat.toDigits 10 a = Nat.toDigits 10 b := by
      rw [← Nat.toList_repr, h, Nat.toList_repr]
    exact Text.toDigits_injective (by decide) (by decide) hdigits
  -- a sign is no digit
  have hsign (a b : Nat) : a.repr ≠ "-" ++ b.repr := by
    intro h
    have hmem : '-' ∈ a.repr.toList := by simp [h]
    exact absurd (isDigit_of_mem_repr hmem) (by decide)
  rw [Int.repr_eq_if, Int.repr_eq_if] at h
  split at h <;> split at h
  next =>
    have habs := hnat h
    omega
  next => exact absurd h (hsign _ _)
  next => exact absurd h.symm (hsign _ _)
  next =>
    have habs := hnat ((String.append_right_inj "-").mp h)
    omega

def kindOf (text : List Char) : Scalar :=
  if '"' ∈ text then .string
  else if 'L' ∈ text then .long
  else if 'e' ∈ text then .boolean
  else .int

theorem kindOf_render (literal : Literal) : kindOf literal.render.toList = literal.scalar := by
  have hnumber {c : Char} (hc : ¬(c = '-' ∨ c.isDigit = true)) (value : Int) :
      c ∉ value.repr.toList := mt mem_repr_int hc
  cases literal with
  | int value => simp [kindOf, render, scalar, hnumber]
  | long value => simp [kindOf, render, scalar, hnumber]
  | string value => simp [kindOf, render, scalar, Text.quote]
  | boolean value => cases value <;> rfl

theorem eq_of_render_eq {a b : Literal} (h : a.render = b.render) : a = b := by
  have hkind : a.scalar = b.scalar := by rw [← kindOf_render a, h, kindOf_render b]
  -- only literals of one kind are left
  cases a <;> cases b <;> cases hkind
  case int.int m n => exact congrArg int (Int32.toInt_inj.mp (repr_int_injective h))
  case long.long m n =>
    have htext : m.toInt.repr = n.toInt.repr := (String.append_left_inj "L").mp h
    exact congrArg long (Int64.toInt_inj.mp (repr_int_injective htext))
  case string.string s t => exact congrArg string (Text.quote_injective h)
  case boolean.boolean p q => cases p <;> cases q <;> simp [render] at h ⊢

/-- Two literals are written alike only if they are the same. A string is written in quotes, one
character after another, each by its short escape, as itself if it is visible, or else by its code
point. What is in the quotes could not be read in another way with any other table of printable
characters in place of the visible ones. -/
theorem render_unambiguous :
    (∀ a b : Literal, a.render = b.render ↔ a = b) ∧
    (∀ text : String, ∃ chars, Text.SpellsAll Text.isVisible text.toList chars ∧
      (string text).render = String.ofList ('"' :: chars ++ ['"'])) ∧
    ∀ (printable other : Char → Bool) (cs ds chars : List Char),
      Text.SpellsAll printable cs chars → Text.SpellsAll other ds chars → cs = ds := by
  refine ⟨fun a b => ⟨eq_of_render_eq, congrArg render⟩, ?_, ?_⟩
  · intro text
    exact ⟨_, Text.spellsAll_flatMap_escapeChar text.toList, rfl⟩
  · intro printable other cs ds chars hcs hds
    exact hcs.unique hds

theorem sample_render_unambiguous :
    (string "\x7f").render ≠ (string "\\u\x7b7f\x7d").render ∧
    ∃ chars, Text.SpellsAll Text.isVisible ['a', '\x7f'] chars ∧
      Text.SpellsAll Char.isAlpha ['a', '\x7f'] chars ∧
      ∀ ds, Text.SpellsAll Char.isAlpha ds chars → ['a', '\x7f'] = ds := by
  obtain ⟨hrender, -, hspells⟩ := render_unambiguous
  have hvisible := Text.SpellsAll.cons (.plain (by decide) (by decide : Text.isVisible 'a' = true))
    (.cons (.code (by decide) (by decide : Text.isVisible '\x7f' = false)) .nil)
  have halpha := Text.SpellsAll.cons (.plain (by decide) (by decide : Char.isAlpha 'a' = true))
    (.cons (.code (by decide) (by decide : Char.isAlpha '\x7f' = false)) .nil)
  refine ⟨fun h => ?_, _, hvisible, halpha, fun ds => hspells _ _ _ ds _ hvisible⟩
  have hsame := (hrender _ _).mp h
  revert hsame
  decide

end ConfigScope.Literal
