import SqlAlgebra.Operator.Table

/-!
# Texts with the same words

The normal form of a text is made of its words, and its words can be read off again
(`words_normalForm`): a word has no blanks, and turning it to upper case brings none in. So two
texts have the same normal form exactly if they have the same words up to case
(`normalForm_eq_iff`), and a normal form is its own normal form (`normalForm_normalForm`). Nor
does it matter whether the blanks are brought down to one space beforehand
(`normalForm_collapsed`), as the rule for binary operations does before it looks its operator up
(`OperatorTable.resolveBinary?_collapsed`).
-/

namespace SqlAlgebra

namespace Text

/-! ## Upper case -/

/-- A letter in lower case goes down by 32, the distance of `a` and `A`, and every other character
stays. -/
theorem toNat_toUpper (c : Char) :
    c.toUpper.toNat = if 97 ≤ c.toNat ∧ c.toNat ≤ 122 then c.toNat - 32 else c.toNat := by
  delta Char.toUpper
  by_cases h : 'a'.val ≤ c.val ∧ c.val ≤ 'z'.val
  · have hrange : 97 ≤ c.toNat ∧ c.toNat ≤ 122 := h
    rw [dif_pos h, if_pos hrange]
    change (c.val + ('A'.val - 'a'.val)).toNat = _
    rw [UInt32.toNat_add, Char.toNat_val]
    change (c.toNat + 4294967264) % 4294967296 = c.toNat - 32
    omega
  · rw [dif_neg h]
    exact (if_neg h).symm

theorem toUpper_toUpper (c : Char) : c.toUpper.toUpper = c.toUpper := by
  rw [← Char.toNat_inj, toNat_toUpper, toNat_toUpper]
  grind

/-- No letter and no capital is a blank. -/
theorem isBlank_toUpper (c : Char) : isBlank c.toUpper = isBlank c := by
  unfold isBlank
  rw [toNat_toUpper]
  split
  · grind
  · rfl

/-- Characters in upper case. -/
def upper (cs : List Char) : List Char := cs.map Char.toUpper

theorem upper_upper (cs : List Char) : upper (upper cs) = upper cs := by
  rw [upper, upper, List.map_map]
  exact List.map_congr_left fun c _ => toUpper_toUpper c

/-! ## Words -/

/-- A word is not empty and has no blanks. -/
structure IsWord (w : List Char) : Prop where
  ne_nil : w ≠ []
  no_blank : ∀ c ∈ w, isBlank c = false

theorem IsWord.upper {w : List Char} (h : IsWord w) : IsWord (upper w) where
  ne_nil := fun hnil => h.ne_nil (List.map_eq_nil_iff.1 hnil)
  no_blank := fun c hc => by
    obtain ⟨d, hd, rfl⟩ := List.mem_map.1 hc
    rw [isBlank_toUpper]
    exact h.no_blank d hd

/-- A blank ends a word. -/
theorem splitWords_cons_of_blank {c : Char} (h : isBlank c = true) (cs : List Char) :
    splitWords (c :: cs) = ([], words cs) :=
  if_pos h

theorem splitWords_cons {c : Char} (h : isBlank c = false) (cs : List Char) :
    splitWords (c :: cs) = (c :: (splitWords cs).1, (splitWords cs).2) :=
  if_neg (Bool.eq_false_iff.1 h)

theorem isWord_of_mem_consWord {w word : List Char} {rest : List (List Char)}
    (hword : ∀ c ∈ word, isBlank c = false) (hrest : ∀ v ∈ rest, IsWord v)
    (h : w ∈ consWord word rest) : IsWord w := by
  unfold consWord at h
  split at h
  · exact hrest w h
  · rename_i hne
    rcases List.mem_cons.1 h with rfl | h
    · exact ⟨fun hnil => hne (List.isEmpty_iff.2 hnil), hword⟩
    · exact hrest w h

/-- What stands before the first blank has no blanks, and what follows are words. -/
theorem splitWords_parts (cs : List Char) :
    (∀ c ∈ (splitWords cs).1, isBlank c = false) ∧ ∀ w ∈ (splitWords cs).2, IsWord w := by
  induction cs with
  | nil => exact ⟨List.forall_mem_nil _, List.forall_mem_nil _⟩
  | cons c cs ih =>
    obtain ⟨hword, hrest⟩ := ih
    cases hc : isBlank c with
    | true =>
      rw [splitWords_cons_of_blank hc]
      exact ⟨List.forall_mem_nil _, fun _ => isWord_of_mem_consWord hword hrest⟩
    | false =>
      rw [splitWords_cons hc]
      exact ⟨List.forall_mem_cons.2 ⟨hc, hword⟩, hrest⟩

/-- The words of a text are words. -/
theorem isWord_of_mem_words {cs w : List Char} (h : w ∈ words cs) : IsWord w :=
  isWord_of_mem_consWord (splitWords_parts cs).1 (splitWords_parts cs).2 h

theorem splitWords_eq {w : List Char} (h : ∀ c ∈ w, isBlank c = false) :
    splitWords w = (w, []) := by
  induction w with
  | nil => rfl
  | cons c w ih =>
    obtain ⟨hc, hw⟩ := List.forall_mem_cons.1 h
    rw [splitWords_cons hc, ih hw]

/-- A word is read off up to the space after it. -/
theorem splitWords_append {w : List Char} (h : ∀ c ∈ w, isBlank c = false) (cs : List Char) :
    splitWords (w ++ ' ' :: cs) = (w, words cs) := by
  induction w with
  | nil => rfl
  | cons c w ih =>
    obtain ⟨hc, hw⟩ := List.forall_mem_cons.1 h
    rw [List.cons_append, splitWords_cons hc, ih hw]

theorem IsWord.consWord_eq {w : List Char} (h : IsWord w) (rest : List (List Char)) :
    consWord w rest = w :: rest :=
  if_neg fun hempty => h.ne_nil (List.isEmpty_iff.1 hempty)

/-- Words that are joined can be read off again. -/
theorem words_joinWords : ∀ {ws : List (List Char)}, (∀ w ∈ ws, IsWord w) →
    words (joinWords ws) = ws
  | [], _ => rfl
  | [w], h => by
    have hw := h w (List.mem_cons_self ..)
    rw [joinWords, words, splitWords_eq hw.no_blank]
    exact hw.consWord_eq []
  | w :: v :: ws, h => by
    have hw := h w (List.mem_cons_self ..)
    rw [joinWords, words, splitWords_append hw.no_blank,
      words_joinWords fun u hu => h u (List.mem_cons_of_mem _ hu)]
    · exact hw.consWord_eq _
    · exact List.cons_ne_nil v ws

/-- Joining words in upper case is putting the joined words in upper case. -/
theorem upper_joinWords : ∀ ws : List (List Char), upper (joinWords ws) = joinWords (ws.map upper)
  | [] => rfl
  | [_] => rfl
  | w :: v :: ws => by
    have ih := upper_joinWords (v :: ws)
    simp only [upper, joinWords, List.map_cons, List.map_append] at ih ⊢
    rw [ih]
    rfl

/-! ## Normal forms -/

/-- The normal form joins the words of the text in upper case. -/
theorem toList_normalForm (text : String) :
    (normalForm text).toList = joinWords ((words text.toList).map upper) := by
  rw [normalForm, String.toList_ofList]
  exact upper_joinWords _

/-- The words of a normal form are those of the text in upper case. -/
theorem words_normalForm (text : String) :
    words (normalForm text).toList = (words text.toList).map upper := by
  rw [toList_normalForm]
  refine words_joinWords fun w hw => ?_
  obtain ⟨v, hv, rfl⟩ := List.mem_map.1 hw
  exact (isWord_of_mem_words hv).upper

/-- Texts have one normal form exactly if they have the same words up to case. -/
theorem normalForm_eq_iff {a b : String} :
    normalForm a = normalForm b ↔
      (words a.toList).map upper = (words b.toList).map upper := by
  constructor
  · intro h
    rw [← words_normalForm, ← words_normalForm, h]
  · intro h
    rw [← String.toList_inj, toList_normalForm, toList_normalForm, h]

/-- A normal form is its own normal form. -/
theorem normalForm_normalForm (text : String) : normalForm (normalForm text) = normalForm text := by
  rw [normalForm_eq_iff, words_normalForm, List.map_map]
  exact List.map_congr_left fun w _ => upper_upper w

/-- The normal form is found through the collapsed text as well. -/
theorem normalForm_collapsed (text : String) : normalForm (collapsed text) = normalForm text := by
  rw [normalForm_eq_iff, collapsed, String.toList_ofList,
    words_joinWords fun _ hw => isWord_of_mem_words hw]

end Text

/-- An operator may be looked up as it was written: collapsing the blanks of the text beforehand,
as the rule for binary operations does, finds the same. -/
theorem OperatorTable.resolveBinary?_collapsed (table : OperatorTable) (text : String) :
    table.resolveBinary? (Text.collapsed text) = table.resolveBinary? text := by
  rw [resolveBinary?, resolveBinary?, Text.normalForm_collapsed]

end SqlAlgebra
