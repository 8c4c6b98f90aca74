import Mathlib.Algebra.Group.Nat.Even
import SqlAlgebra.Plan.Render

/-!
# String literals inside a text

A string literal is written between quotes, and a quote in it is written twice. `Literal.scan`
is how a reader finds the end of one: it goes on from the opening quote to the first quote that
is not doubled, and takes a pair of quotes for one. Written content is read to its end, whatever
stands there and whatever follows (`scanQuoted_append`), so it is only at the closing quote that
the text after a literal matters: there the reader looks one character ahead, and sees a pair if
the text after the literal begins with a quote.

So what the reader accepts are the written literals with a text behind them that does not begin
with a quote (`scan_eq_some_iff`). That no content ends its literal shows in the written form as
well. A quote in it that has an even number of quotes before it is the first of a pair
(`head?_eq_quote_of_even`).
-/

namespace SqlAlgebra.Literal

/-! ## Reading up to the closing quote -/

/-- A quote is written twice. -/
theorem doubleQuotes_quote (s : List Char) :
    doubleQuotes ('\'' :: s) = '\'' :: '\'' :: doubleQuotes s :=
  if_pos rfl

theorem doubleQuotes_other {c : Char} (h : c ≠ '\'') (s : List Char) :
    doubleQuotes (c :: s) = c :: doubleQuotes s :=
  if_neg h

/-- Reads on after an opening quote up to the first quote that is not doubled. What was read, with
one quote for each pair, comes with the text after the closing quote. -/
def scanQuoted : List Char → Option (List Char × List Char)
  | [] => none
  | '\'' :: '\'' :: cs => (scanQuoted cs).map (Prod.map ('\'' :: ·) id)
  | '\'' :: cs => some ([], cs)
  | c :: cs => (scanQuoted cs).map (Prod.map (c :: ·) id)

/-- Reads the string literal that a text begins with. -/
def scan (text : String) : Option (String × String) :=
  match text.toList with
  | '\'' :: cs => (scanQuoted cs).map (Prod.map String.ofList String.ofList)
  | _ => none

/-- Two quotes are read as one. -/
theorem scanQuoted_pair (cs : List Char) :
    scanQuoted ('\'' :: '\'' :: cs) = (scanQuoted cs).map (Prod.map ('\'' :: ·) id) := by
  rw [scanQuoted]

/-- One quote ends the content. -/
theorem scanQuoted_single {cs : List Char} (h : cs.head? ≠ some '\'') :
    scanQuoted ('\'' :: cs) = some ([], cs) := by
  rw [scanQuoted]
  rintro cs' rfl
  exact h rfl

theorem scanQuoted_other {c : Char} (h : c ≠ '\'') (cs : List Char) :
    scanQuoted (c :: cs) = (scanQuoted cs).map (Prod.map (c :: ·) id) := by
  rw [scanQuoted]
  · exact fun _ hc _ => h hc
  · exact h

/-- Written content is read to its end. -/
theorem scanQuoted_append (s cs : List Char) :
    scanQuoted (doubleQuotes s ++ cs) = (scanQuoted cs).map (Prod.map (s ++ ·) id) := by
  induction s with
  | nil => exact Option.map_id_apply.symm
  | cons c s ih =>
    by_cases hc : c = '\''
    · subst hc
      rw [doubleQuotes_quote, List.cons_append, List.cons_append, scanQuoted_pair, ih,
        Option.map_map]
      rfl
    · rw [doubleQuotes_other hc, List.cons_append, scanQuoted_other hc, ih, Option.map_map]
      rfl

/-- A character in front of what is read is its first character. -/
theorem exists_of_map_cons {c : Char} {read : Option (List Char × List Char)}
    {s rest : List Char} (h : read.map (Prod.map (c :: ·) id) = some (s, rest)) :
    ∃ s', read = some (s', rest) ∧ s = c :: s' := by
  obtain ⟨⟨s', _⟩, hread, heq⟩ := Option.map_eq_some_iff.1 h
  obtain ⟨rfl, rfl⟩ := Prod.mk.inj heq
  exact ⟨s', hread, rfl⟩

/-- What is read stood there in its written form. -/
theorem eq_of_scanQuoted {cs s rest : List Char} (h : scanQuoted cs = some (s, rest)) :
    cs = doubleQuotes s ++ '\'' :: rest ∧ rest.head? ≠ some '\'' := by
  fun_induction scanQuoted cs generalizing s with
  | case1 => cases h
  | case2 cs ih =>
    obtain ⟨s, hread, rfl⟩ := exists_of_map_cons h
    obtain ⟨rfl, hrest⟩ := ih hread
    rw [doubleQuotes_quote]
    exact ⟨rfl, hrest⟩
  | case3 cs hsingle =>
    obtain ⟨rfl, rfl⟩ := Prod.mk.inj (Option.some.inj h)
    refine ⟨rfl, fun hquote => ?_⟩
    obtain ⟨cs', rfl⟩ := List.head?_eq_some_iff.1 hquote
    exact hsingle cs' rfl
  | case4 c cs _ hother ih =>
    obtain ⟨s, hread, rfl⟩ := exists_of_map_cons h
    obtain ⟨rfl, hrest⟩ := ih hread
    rw [doubleQuotes_other hother]
    exact ⟨rfl, hrest⟩

/-- Content in its written form with a closing quote is all that is read. -/
theorem scanQuoted_eq_some_iff {cs s rest : List Char} :
    scanQuoted cs = some (s, rest) ↔
      cs = doubleQuotes s ++ '\'' :: rest ∧ rest.head? ≠ some '\'' := by
  refine ⟨eq_of_scanQuoted, ?_⟩
  rintro ⟨rfl, hrest⟩
  rw [scanQuoted_append, scanQuoted_single hrest, Option.map_some, Prod.map_apply, List.append_nil]
  rfl

/-! ## Literals in texts -/

/-- A literal is written as a quote, its content with quotes doubled, and a quote. -/
theorem toList_render_append (s rest : String) :
    ((string s).render ++ rest).toList =
      '\'' :: (doubleQuotes s.toList ++ '\'' :: rest.toList) := by
  rw [render, String.toList_append, String.toList_ofList, List.cons_append, List.cons_append,
    List.append_assoc, List.singleton_append]

/-- After an opening quote, what is read is settled by what stands behind it. -/
theorem scan_of_toList {text : String} {cs : List Char} (h : text.toList = '\'' :: cs) :
    scan text = (scanQuoted cs).map (Prod.map String.ofList String.ofList) := by
  unfold scan
  rw [h]
  rfl

/-- What can be read begins with a quote. -/
theorem exists_toList_of_scan {text : String} {read : String × String}
    (h : scan text = some read) : ∃ cs, text.toList = '\'' :: cs := by
  unfold scan at h
  split at h
  · rename_i cs hcs
    exact ⟨cs, hcs⟩
  · cases h

/-- The texts that begin with a literal are the written literals with something behind them that
does not begin with a quote. -/
theorem scan_eq_some_iff {text s rest : String} :
    scan text = some (s, rest) ↔
      text = (string s).render ++ rest ∧ rest.toList.head? ≠ some '\'' := by
  constructor
  · intro h
    obtain ⟨cs, hcs⟩ := exists_toList_of_scan h
    rw [scan_of_toList hcs] at h
    obtain ⟨⟨content, after⟩, hread, heq⟩ := Option.map_eq_some_iff.1 h
    obtain ⟨rfl, rfl⟩ := Prod.mk.inj heq
    obtain ⟨rfl, hrest⟩ := eq_of_scanQuoted hread
    refine ⟨?_, by rwa [String.toList_ofList]⟩
    rw [← String.toList_inj, hcs, toList_render_append, String.toList_ofList,
      String.toList_ofList]
  · rintro ⟨rfl, hrest⟩
    rw [scan_of_toList (toList_render_append s rest), scanQuoted_eq_some_iff.2 ⟨rfl, hrest⟩,
      Option.map_some, Prod.map_apply, String.ofList_toList, String.ofList_toList]

/-- A literal is read back exactly if it is not followed by a quote. -/
theorem scan_render_iff {s rest : String} :
    scan ((string s).render ++ rest) = some (s, rest) ↔ rest.toList.head? ≠ some '\'' :=
  scan_eq_some_iff.trans (and_iff_right rfl)

/-- Different contents are written differently. -/
theorem render_string_injective : Function.Injective fun s => (string s).render := by
  intro s t h
  have hs : scan ((string s).render ++ "") = some (s, "") := scan_render_iff.2 nofun
  have ht : scan ((string t).render ++ "") = some (t, "") := scan_render_iff.2 nofun
  have hrender : (string s).render = (string t).render := h
  rw [hrender, ht] at hs
  exact (Prod.mk.inj (Option.some.inj hs)).1.symm

/-- Even if a quote follows, nothing less than the content is read. -/
theorem isPrefix_of_scan {s rest t after : String}
    (h : scan ((string s).render ++ rest) = some (t, after)) : s.toList <+: t.toList := by
  rw [scan_of_toList (toList_render_append s rest), scanQuoted_append, Option.map_map] at h
  obtain ⟨⟨more, behind⟩, -, heq⟩ := Option.map_eq_some_iff.1 h
  obtain ⟨rfl, -⟩ := Prod.mk.inj heq
  exact ⟨more, by rw [String.toList_ofList]⟩

/-! ## The quotes of a literal -/

/-- A quote of the written content with an even number of quotes before it is the first of a
pair. -/
theorem head?_eq_quote_of_even {s before after : List Char}
    (h : doubleQuotes s = before ++ '\'' :: after) (heven : Even (before.count '\'')) :
    after.head? = some '\'' := by
  induction s generalizing before with
  | nil => exact absurd h.symm (List.append_ne_nil_of_right_ne_nil _ (List.cons_ne_nil _ _))
  | cons c s ih =>
    by_cases hc : c = '\''
    · subst hc
      rw [doubleQuotes_quote] at h
      match before with
      | [] =>
        rw [← (List.cons.inj h).2]
        rfl
      | [d] =>
        obtain ⟨rfl, -⟩ := List.cons.inj h
        simp at heven
      | d :: e :: before =>
        obtain ⟨rfl, htail⟩ := List.cons.inj h
        obtain ⟨rfl, hrest⟩ := List.cons.inj htail
        rw [List.count_cons_self, List.count_cons_self, Nat.even_add_one, Nat.even_add_one,
          not_not] at heven
        exact ih hrest heven
    · rw [doubleQuotes_other hc] at h
      match before with
      | [] => exact absurd (List.cons.inj h).1 hc
      | d :: before =>
        obtain ⟨rfl, hrest⟩ := List.cons.inj h
        rw [List.count_cons_of_ne hc] at heven
        exact ih hrest heven

/-- A string literal is read back from any text that begins with it, and leaves what follows it,
exactly if no quote follows. So strings are told apart by their literals. Whatever follows, the
whole content is read, and within it each quote that could end the literal, having an even number
of quotes before it, is doubled. -/
theorem scan_render :
    (∀ s rest : String, scan ((string s).render ++ rest) = some (s, rest) ↔
      rest.toList.head? ≠ some '\'') ∧
    (Function.Injective fun s => (string s).render) ∧
    (∀ s rest t after : String, scan ((string s).render ++ rest) = some (t, after) →
      s.toList <+: t.toList) ∧
    ∀ (s : String) (before after : List Char),
      doubleQuotes s.toList = before ++ '\'' :: after → Even (before.count '\'') →
        after.head? = some '\'' :=
  ⟨fun _ _ => scan_render_iff, render_string_injective, fun _ _ _ _ => isPrefix_of_scan,
    fun _ _ _ => head?_eq_quote_of_even⟩

/-- The content of two quotes is written between quotes as four, of which the first and the third
have an even number of quotes before them. With a literal right behind it, `'a'` is read on. -/
theorem scan_render_quotes :
    scan "'''''' OR x" = some ("''", " OR x") ∧
    (doubleQuotes ['\'', '\''] = ['\'', '\''] ++ '\'' :: ['\''] ∧
      Even (['\'', '\''].count '\'') ∧ ['\''].head? = some '\'') ∧
    scan "'a''b'" = some ("a'b", "") ∧ "a".toList <+: "a'b".toList :=
  ⟨(scan_render.1 "''" " OR x").2 (by decide),
    ⟨rfl, by decide, scan_render.2.2.2 "''" ['\'', '\''] ['\''] rfl (by decide)⟩,
    by decide, scan_render.2.2.1 "a" "'b'" "a'b" "" (by decide)⟩

end SqlAlgebra.Literal
