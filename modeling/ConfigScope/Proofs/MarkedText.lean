import ConfigScope.Diagnostic.Excerpt

/-!
# What a diagnostic marks

A diagnostic is drawn for the part of its site that lies in the source (`Diagnostic.clamp`). That
part is never empty, but for a site that starts at the end of the source or behind it
(`Diagnostic.clamp_places`).

The ends of a site count bytes and are taken as places of characters. The characters that an excerpt
marks are those at its places (`Excerpt.marked_of?`), so they are the text of the site if up to its
end there are only characters of one byte. With every byte more that a character before the site
takes, they stand one place too far to the right (`Diagnostic.excerpt_shift`).
-/

namespace ConfigScope

namespace Diagnostic

/-! ## The part of a site in the source -/

theorem clamp_eq (site : Span) (size : Nat) :
    clamp site size = (min site.start size, min (max site.stop (site.start + 1)) size) := by
  have hle := site.start_le_stop
  simp only [clamp]
  split
  -- an empty site is widened, which does not help it at the end of the source
  · rw [Prod.mk.injEq]
    exact ⟨rfl, by omega⟩
  · rw [Prod.mk.injEq]
    exact ⟨rfl, by omega⟩

theorem clamp_of_within {site : Span} {size : Nat} (hsite : site.start < site.stop)
    (hsize : site.stop ≤ size) : clamp site size = (site.start, site.stop) := by
  have hstart : site.start ≤ size := Nat.le_trans site.start_le_stop hsize
  rw [clamp_eq, Nat.min_eq_left hstart, Nat.max_eq_left hsite, Nat.min_eq_left hsize]

/-- The span that is drawn for a site lies in the source. It is the site itself if that is not empty
and lies in the source; in any case it consists of the places of the site, taken to be at least one
place long, that lie in the source. So it is empty exactly for a site that starts at the end of the
source or behind it. -/
theorem clamp_places (site : Span) (size : Nat) :
    (clamp site size).1 ≤ (clamp site size).2 ∧ (clamp site size).2 ≤ size ∧
    (site.start < site.stop → site.stop ≤ size → clamp site size = (site.start, site.stop)) ∧
    (∀ place, (clamp site size).1 ≤ place ∧ place < (clamp site size).2 ↔
      site.start ≤ place ∧ place < max site.stop (site.start + 1) ∧ place < size) ∧
    ((clamp site size).1 < (clamp site size).2 ↔ site.start < size) := by
  have hle := site.start_le_stop
  refine ⟨?_, ?_, clamp_of_within, fun place => ?_, ?_⟩
  all_goals
    simp only [clamp_eq]
    omega

theorem sample_clamp_places :
    clamp ⟨2, 4, by decide⟩ 5 = (2, 4) ∧
    (clamp ⟨4, 4, by decide⟩ 5).1 < (clamp ⟨4, 4, by decide⟩ 5).2 :=
  ⟨(clamp_places ⟨2, 4, by decide⟩ 5).2.2.1 (by decide) (by decide),
    (clamp_places ⟨4, 4, by decide⟩ 5).2.2.2.2.mpr (by decide)⟩

theorem exists_empty_mark :
    0 < "x".utf8ByteSize ∧ ¬ (clamp ⟨1, 1, by decide⟩ "x".utf8ByteSize).1 <
      (clamp ⟨1, 1, by decide⟩ "x".utf8ByteSize).2 := by
  decide

end Diagnostic

/-! ## The marked characters -/

namespace Text

/-- The characters of a text that have their places from `start` up to `stop`, where the first
character has the place `offset`. -/
def charsAt (start stop : Nat) (offset : Nat) : List Char → List Char
  | [] => []
  | c :: rest =>
    if start ≤ offset ∧ offset < stop then c :: charsAt start stop (offset + 1) rest
    else charsAt start stop (offset + 1) rest

theorem charsAt_append (start stop offset : Nat) (text rest : List Char) :
    charsAt start stop offset (text ++ rest) =
      charsAt start stop offset text ++ charsAt start stop (offset + text.length) rest := by
  induction text generalizing offset with
  | nil => rfl
  | cons c text ih =>
    have hlength : offset + (c :: text).length = offset + 1 + text.length := by simp; omega
    simp only [List.cons_append, charsAt, ih, hlength]
    split <;> rfl

theorem charsAt_eq_take_drop (start stop offset : Nat) (text : List Char) :
    charsAt start stop offset text =
      (text.drop (start - offset)).take (stop - max start offset) := by
  induction text generalizing offset with
  | nil => simp [charsAt]
  | cons c rest ih =>
    rw [charsAt, ih]
    split
    · rename_i hin
      have hstart : start - offset = 0 ∧ start - (offset + 1) = 0 := by omega
      have hstop : stop - max start offset = stop - max start (offset + 1) + 1 := by omega
      simp [hstart, hstop]
    · rename_i hout
      by_cases hbefore : offset < start
      · have hstart : start - offset = start - (offset + 1) + 1 := by omega
        have hstop : max start offset = max start (offset + 1) := by omega
        rw [hstart, hstop, List.drop_succ_cons]
      -- the places are behind already, and so are all that follow
      · have hstop : stop - max start offset = 0 ∧ stop - max start (offset + 1) = 0 := by omega
        rw [hstop.1, hstop.2, List.take_zero, List.take_zero]

theorem flatten_breakLines (current text : List Char) :
    (breakLines current text).flatten = current.reverse ++ text := by
  fun_induction breakLines current text with
  | case1 current hempty => simp [List.isEmpty_iff.mp hempty]
  | case2 current hopen => simp
  | case3 current rest ih => simp [ih]
  | case4 current c rest _ hends ih => simp [ih]
  | case5 current c rest _ hends ih => simp [ih]

theorem flatMap_withOffsets (start stop offset : Nat) (lines : List (List Char)) :
    ((withOffsets offset lines).flatMap fun line => charsAt start stop line.offset line.text) =
      charsAt start stop offset lines.flatten := by
  induction lines generalizing offset with
  | nil => rfl
  | cons line rest ih =>
    rw [withOffsets, List.flatMap_cons, ih, List.flatten_cons, charsAt_append]

theorem flatMap_linesOf (start stop : Nat) (text : List Char) :
    ((linesOf text).flatMap fun line => charsAt start stop line.offset line.text) =
      charsAt start stop 0 text := by
  have hflatten := flatten_breakLines [] text
  rw [List.reverse_nil, List.nil_append] at hflatten
  unfold linesOf
  split
  -- only the empty text has no line, and then one without characters stands for it
  · rename_i hlines
    rw [hlines] at hflatten
    simp [← hflatten, charsAt]
  · rw [flatMap_withOffsets, hflatten]

end Text

namespace Excerpt

open Text

def marked (x : Excerpt) : List Char :=
  x.lines.flatMap fun line => charsAt x.start x.stop line.offset line.text

theorem of?_eq_none_iff {text : List Char} {start stop : Nat} (h : start < stop) :
    of? text start stop = none ↔ text.length + 1 < stop := by
  simp only [of?, if_pos h]
  split
  · simp
    omega
  · simp
    omega

theorem ends_of? {text : List Char} {start stop : Nat} {x : Excerpt}
    (h : of? text start stop = some x) :
    x.lines = linesOf text ∧ x.start = start ∧ x.stop = stop := by
  simp only [of?, Option.ite_none_right_eq_some, Option.some.injEq] at h
  obtain ⟨-, rfl⟩ := h
  exact ⟨rfl, rfl, rfl⟩

theorem marked_of? {text : List Char} {start stop : Nat} {x : Excerpt}
    (h : of? text start stop = some x) : x.marked = (text.drop start).take (stop - start) := by
  obtain ⟨hlines, rfl, rfl⟩ := ends_of? h
  rw [marked, hlines, flatMap_linesOf, charsAt_eq_take_drop, Nat.sub_zero, Nat.max_zero]

end Excerpt

/-! ## Bytes and characters -/

namespace Text

/-- How many bytes a text has beyond one for each character. -/
def surplus (text : String) : Nat := text.utf8ByteSize - text.length

theorem utf8ByteSize_eq_length_add_surplus (text : String) :
    text.utf8ByteSize = text.length + surplus text := by
  have hle : text.length ≤ text.utf8ByteSize := by
    induction text using String.push_induction with
    | empty => simp
    | push text c ih =>
      have hc := c.utf8Size_pos
      rw [String.length_push, String.utf8ByteSize_push]
      omega
  rw [surplus]
  omega

theorem surplus_eq_zero_iff (text : String) :
    surplus text = 0 ↔ ∀ c ∈ text.toList, c.utf8Size = 1 := by
  induction text using String.push_induction with
  | empty => simp [surplus]
  | push text c ih =>
    have hc := c.utf8Size_pos
    have htext := utf8ByteSize_eq_length_add_surplus text
    have hpush : surplus (text.push c) = surplus text + (c.utf8Size - 1) := by
      rw [surplus, String.length_push, String.utf8ByteSize_push]
      omega
    have hone : c.utf8Size - 1 = 0 ↔ c.utf8Size = 1 := by omega
    rw [hpush, Nat.add_eq_zero_iff, ih, hone, String.toList_push, List.forall_mem_append,
      List.forall_mem_singleton]

theorem surplus_append (text rest : String) :
    surplus (text ++ rest) = surplus text + surplus rest := by
  have htext := utf8ByteSize_eq_length_add_surplus text
  have hrest := utf8ByteSize_eq_length_add_surplus rest
  rw [surplus, String.utf8ByteSize_append, String.length_append]
  omega

end Text

/-- The site starts and ends between characters of the source, and covers at least one: `inside` is
what it covers. -/
structure Span.Cuts (site : Span) (source before inside after : String) : Prop where
  source_eq : source = before ++ inside ++ after
  start_eq : site.start = before.utf8ByteSize
  stop_eq : site.stop = (before ++ inside).utf8ByteSize
  inside_ne : inside ≠ ""

namespace Diagnostic

open Text

def excerpt? (diagnostic : Diagnostic) (source : String) : Option Excerpt :=
  Excerpt.of? source.toList (clamp diagnostic.site source.utf8ByteSize).1
    (clamp diagnostic.site source.utf8ByteSize).2

theorem render_eq_title_append_draw (diagnostic : Diagnostic) (source file : String) :
    diagnostic.render source file =
      "[" ++ diagnostic.code ++ "] Error: " ++ diagnostic.message ++ "\n" ++
        ((diagnostic.excerpt? source).map fun x =>
          x.draw file diagnostic.label diagnostic.help).getD "" := by
  rw [render]
  cases hx : diagnostic.excerpt? source with
  | some x =>
    rw [excerpt?] at hx
    simp [hx]
  | none =>
    rw [excerpt?] at hx
    simp [hx]

variable {diagnostic : Diagnostic} {source before inside after : String}

theorem start_lt_stop_of_cuts {site : Span} (h : site.Cuts source before inside after) :
    site.start < site.stop := by
  have hinside : inside.utf8ByteSize ≠ 0 := fun h0 =>
    h.inside_ne (String.utf8ByteSize_eq_zero_iff.mp h0)
  rw [h.start_eq, h.stop_eq, String.utf8ByteSize_append]
  omega

theorem excerpt?_of_cuts (h : diagnostic.site.Cuts source before inside after) :
    diagnostic.excerpt? source =
      Excerpt.of? source.toList before.utf8ByteSize (before ++ inside).utf8ByteSize := by
  have hsize : diagnostic.site.stop ≤ source.utf8ByteSize := by
    rw [h.stop_eq, h.source_eq, String.utf8ByteSize_append (s := before ++ inside)]
    exact Nat.le_add_right _ _
  rw [excerpt?, clamp_of_within (start_lt_stop_of_cuts h) hsize, h.start_eq, h.stop_eq]

theorem excerpt?_eq_none_iff (h : diagnostic.site.Cuts source before inside after) :
    diagnostic.excerpt? source = none ↔ after.length + 1 < surplus (before ++ inside) := by
  have hlt := start_lt_stop_of_cuts h
  rw [h.start_eq, h.stop_eq] at hlt
  have hbytes := utf8ByteSize_eq_length_add_surplus (before ++ inside)
  rw [excerpt?_of_cuts h, Excerpt.of?_eq_none_iff hlt, h.source_eq, String.length_toList,
    String.length_append, hbytes]
  omega

theorem marked_of_cuts (h : diagnostic.site.Cuts source before inside after) {x : Excerpt}
    (hx : diagnostic.excerpt? source = some x) :
    x.start = before.length + surplus before ∧
    x.stop = x.start + inside.length + surplus inside ∧
    x.marked = ((inside ++ after).toList.drop (surplus before)).take
      (inside.length + surplus inside) := by
  rw [excerpt?_of_cuts h] at hx
  obtain ⟨-, hstart, hstop⟩ := Excerpt.ends_of? hx
  have hbefore := utf8ByteSize_eq_length_add_surplus before
  have hinside := utf8ByteSize_eq_length_add_surplus inside
  have hlength : (before ++ inside).utf8ByteSize - before.utf8ByteSize =
      inside.length + surplus inside := by
    rw [String.utf8ByteSize_append]
    omega
  refine ⟨hstart.trans hbefore, ?_, ?_⟩
  · rw [hstart, hstop, String.utf8ByteSize_append]
    omega
  · have hchars : source.toList = before.toList ++ (inside ++ after).toList := by
      simp [h.source_eq]
    rw [Excerpt.marked_of? hx, hlength, hchars, hbefore, ← String.length_toList (s := before),
      List.drop_length_add_append]

/-- A text that a site covers is marked where it stands exactly if all characters up to its end take
one byte. Otherwise what is marked starts as many places further on as there are bytes to spare
before the site, goes on for as many more as there are inside of it, and ends with the source. If
the last place would be more than one behind the source, nothing is drawn below the title. -/
theorem excerpt_shift (h : diagnostic.site.Cuts source before inside after) :
    (∀ file, diagnostic.render source file =
      "[" ++ diagnostic.code ++ "] Error: " ++ diagnostic.message ++ "\n" ++
        ((diagnostic.excerpt? source).map fun x =>
          x.draw file diagnostic.label diagnostic.help).getD "") ∧
    (diagnostic.excerpt? source = none ↔ after.length + 1 < surplus (before ++ inside)) ∧
    (∀ x, diagnostic.excerpt? source = some x →
      x.start = before.length + surplus before ∧
      x.stop = x.start + inside.length + surplus inside ∧
      x.marked = ((inside ++ after).toList.drop (surplus before)).take
        (inside.length + surplus inside)) ∧
    ((∃ x, diagnostic.excerpt? source = some x ∧ x.marked = inside.toList ∧
        x.start = before.length ∧ x.stop = before.length + inside.length) ↔
      ∀ c ∈ (before ++ inside).toList, c.utf8Size = 1) := by
  refine ⟨render_eq_title_append_draw diagnostic source, excerpt?_eq_none_iff h,
    fun x => marked_of_cuts h, ?_⟩
  rw [← surplus_eq_zero_iff, surplus_append]
  constructor
  · rintro ⟨x, hx, -, hstart, hstop⟩
    obtain ⟨hshift, hgrow, -⟩ := marked_of_cuts h hx
    omega
  · intro hzero
    -- the last place is in the source, so the excerpt is drawn
    have hdrawn : diagnostic.excerpt? source ≠ none := by
      rw [Ne, excerpt?_eq_none_iff h, surplus_append]
      omega
    obtain ⟨x, hx⟩ := Option.ne_none_iff_exists'.mp hdrawn
    obtain ⟨hstart, hstop, hmarked⟩ := marked_of_cuts h hx
    have hnone : surplus before = 0 ∧ surplus inside = 0 := by omega
    refine ⟨x, hx, ?_, by omega, by omega⟩
    rw [hmarked, hnone.1, hnone.2, List.drop_zero, Nat.add_zero, String.toList_append,
      ← String.length_toList, List.take_left]

end Diagnostic

namespace Sample

def nobody : Diagnostic := Issue.diagnostic ⟨⟨10, 16, by decide⟩, .unresolvedName "nobody"⟩

end Sample

namespace Diagnostic

theorem sample_excerpt_shift :
    Sample.nobody.site.Cuts "a = 1\nb = nobody\n" "a = 1\nb = " "nobody" "\n" ∧
    ∃ x, Sample.nobody.excerpt? "a = 1\nb = nobody\n" = some x ∧ x.marked = "nobody".toList := by
  have hcuts : Sample.nobody.site.Cuts "a = 1\nb = nobody\n" "a = 1\nb = " "nobody" "\n" :=
    ⟨rfl, by decide, by decide, by decide⟩
  have honebyte : ∀ c ∈ ("a = 1\nb = " ++ "nobody").toList, c.utf8Size = 1 :=
    (Text.surplus_eq_zero_iff _).mp (by decide)
  obtain ⟨-, -, -, hmarks⟩ := excerpt_shift hcuts
  obtain ⟨x, hx, hmarked, -, -⟩ := hmarks.mpr honebyte
  exact ⟨hcuts, x, hx, hmarked⟩

theorem exists_misplaced_mark :
    Sample.nobody.site.Cuts "größe = nobody()" "größe = " "nobody" "()" ∧
    ∃ x, Sample.nobody.excerpt? "größe = nobody()" = some x ∧
      x.marked = "body()".toList ∧ x.marked ≠ "nobody".toList := by
  refine ⟨⟨rfl, by decide, by decide, by decide⟩, _, rfl, ?_⟩
  decide

end Diagnostic

end ConfigScope
