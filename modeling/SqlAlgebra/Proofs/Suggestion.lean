import Mathlib.Data.List.MinMax
import SqlAlgebra.Conversion.Error
import SqlAlgebra.Proofs.Edits
import SqlAlgebra.Proofs.NormalForm
import SqlAlgebra.Proofs.Resolution

/-!
# Suggestions

`closest?` goes through the options once and keeps the nearest so far. What it ends with is the
first of the options at the least distance, unless that is more than three edits away
(`closest?_eq_argmin`, `closest?_eq_some_iff`, `closest?_eq_none_iff`). Distances being least
numbers of edits, `closest?_firstNearest` says so in terms of edits.

The hint of an operator without a meaning is such a suggestion among the standard spellings.
Operators are looked up by their normal form, but the suggestion is made for the text as it
stands there. So the hints of a text and of its normal form agree exactly if one spelling is the
first of the nearest for both. That is so if the text has no blanks to spare and none of its
small letters is the small form of a letter in a spelling (`ConvertError.hint_normalForm`); it
is not so in general (`ConvertError.hint_notlike`).
-/

namespace SqlAlgebra

namespace Text

/-- Of the options, this is the first at the least distance from the target, and it is at most
three edits away. -/
structure FirstNearest (target : String) (options : List String) (option : String) : Prop where
  mem : option ∈ options
  near : editDistance target option ≤ 3
  least : ∀ other ∈ options, editDistance target option ≤ editDistance target other
  first : ∀ other ∈ options, editDistance target other ≤ editDistance target option →
    options.idxOf option ≤ options.idxOf other

/-! ## The nearest option -/

/-- An option with its distance from the target, unless it is too far away. -/
def withinReach (target : String) (option : String) : Option (Nat × String) :=
  if editDistance target option ≤ 3 then some (editDistance target option, option) else none

/-- One more option, after the nearest of those before it has been found. -/
theorem nearer_withinReach (target best option : String) :
    nearer target (withinReach target best) option = withinReach target
      (if editDistance target option < editDistance target best then option else best) := by
  unfold nearer withinReach
  grind

/-- Going through the options finds the one that minimises the distance. -/
theorem foldl_nearer (target : String) (options : List String) :
    options.foldl (nearer target) none =
      (options.argmin (editDistance target)).bind (withinReach target) := by
  induction options using List.reverseRecOn with
  | nil => rfl
  | append_singleton options option ih =>
    rw [List.foldl_concat, ih, List.argmin_concat]
    cases options.argmin (editDistance target) with
    | none => simp [nearer, withinReach]
    | some best =>
      rw [Option.bind_some, nearer_withinReach]
      dsimp only
      split <;> rfl

/-- The closest option is the first of the nearest ones, if it is within three edits. -/
theorem closest?_eq_argmin (target : String) (options : List String) :
    closest? target options =
      (options.argmin (editDistance target)).filter (editDistance target · ≤ 3) := by
  rw [closest?, foldl_nearer]
  cases options.argmin (editDistance target) with
  | none => rfl
  | some option =>
    rw [Option.bind_some, withinReach, Option.filter_some]
    grind

/-- An option is suggested exactly if it is the first of the nearest ones and within three edits. -/
theorem closest?_eq_some_iff {target option : String} {options : List String} :
    closest? target options = some option ↔ FirstNearest target options option := by
  rw [closest?_eq_argmin, Option.filter_eq_some_iff, List.argmin_eq_some_iff, decide_eq_true_iff]
  constructor
  · rintro ⟨⟨hmem, hleast, hfirst⟩, hnear⟩
    exact ⟨hmem, hnear, hleast, hfirst⟩
  · rintro ⟨hmem, hnear, hleast, hfirst⟩
    exact ⟨⟨hmem, hleast, hfirst⟩, hnear⟩

/-- Nothing is suggested exactly if every option is more than three edits away. -/
theorem closest?_eq_none_iff {target : String} {options : List String} :
    closest? target options = none ↔ ∀ option ∈ options, 3 < editDistance target option := by
  rw [closest?_eq_argmin, Option.filter_eq_none_iff]
  constructor
  · intro hfar option hmem
    obtain ⟨best, hbest⟩ : ∃ best, options.argmin (editDistance target) = some best := by
      rw [← Option.ne_none_iff_exists', Ne, List.argmin_eq_none]
      exact List.ne_nil_of_mem hmem
    have hbestFar : ¬ editDistance target best ≤ 3 := by simpa using hfar best hbest
    have hle := List.le_of_mem_argmin hmem hbest
    omega
  · intro hfar best hbest
    have hbestFar := hfar best (List.argmin_mem hbest)
    simpa using hbestFar

/-- The closest option is the first at the least distance, which is the least number of edits,
if that is at most three. There is none if and only if no three edits, or fewer, lead to an
option. -/
theorem closest?_firstNearest (target : String) (options : List String) :
    (∀ text, IsLeast {n | Edits n target.toList text.toList} (editDistance target text)) ∧
    (∀ option, closest? target options = some option ↔ FirstNearest target options option) ∧
    (closest? target options = none ↔
      ∀ option ∈ options, ∀ n, Edits n target.toList option.toList → 3 < n) := by
  refine ⟨isLeast_editDistance target, fun _ => closest?_eq_some_iff, ?_⟩
  rw [closest?_eq_none_iff]
  refine forall₂_congr fun option _ => ?_
  obtain ⟨hedits, hleast⟩ := isLeast_editDistance target option
  exact ⟨fun hfar n hn => Nat.lt_of_lt_of_le hfar (hleast hn), fun hfar => hfar _ hedits⟩

/-! ## Suggestions for operators -/

/-- The nearest of some options is the same for texts at the same distances. -/
theorem closest?_congr {a b : String} {options : List String}
    (h : ∀ option ∈ options, editDistance a option = editDistance b option) :
    closest? a options = closest? b options := by
  unfold closest?
  congr 1
  refine List.foldl_ext _ _ none fun best option hoption => ?_
  rw [nearer, nearer, h option hoption]

/-- A normal form is in upper case. -/
theorem toUpper_of_mem_normalForm {text : String} : ∀ c ∈ (normalForm text).toList,
    c.toUpper = c := by
  rw [normalForm, String.toList_ofList]
  exact List.forall_mem_map.2 fun c _ => toUpper_toUpper c

/-- Small letters make no difference if no letter of a spelling is the capital of one. -/
theorem editDistance_normalForm {text spelling : String} (hblanks : collapsed text = text)
    (hupper : ∀ c ∈ spelling.toList, c.toUpper = c)
    (hletters : ∀ c ∈ text.toList, c.toUpper ≠ c → c.toUpper ∉ spelling.toList) :
    editDistance (normalForm text) spelling = editDistance text spelling := by
  have hwords : joinWords (words text.toList) = text.toList := by
    rw [← String.toList_ofList (l := joinWords (words text.toList))]
    exact congrArg String.toList hblanks
  rw [normalForm, hwords]
  refine editDistance_map fun x hx y hy => ⟨?_, ?_⟩
  · rintro rfl
    by_contra hne
    exact hletters x hx (Ne.symm hne) hy
  · rintro rfl
    exact hupper x hy

end Text

theorem OperatorTable.toUpper_of_mem_standard :
    ∀ spelling ∈ standard.binarySpellings, ∀ c ∈ spelling.toList, c.toUpper = c :=
  forall_mem_binarySpellings_standard fun _ _ => Text.toUpper_of_mem_normalForm

namespace ConvertError

open Text

/-- The wording tells apart whether there is a suggestion, and which. -/
theorem operatorHint_eq_iff {a b : String} {supported : List String} :
    operatorHint a supported = operatorHint b supported ↔
      closest? a supported = closest? b supported := by
  unfold operatorHint
  cases closest? a supported <;> cases closest? b supported <;> simp [← String.toList_inj]

/-- The hints of an operator text and of its normal form agree exactly if the same spelling, or
none, is the first of the nearest for both. They agree if blanks stand only between words, one
at a time, and no standard spelling has the capital of a small letter of the text. -/
theorem hint_normalForm (text : String) (left right : SegmentKind) (span : Span) :
    ((unsupportedOperator text left right span).toReport.hint =
        (unsupportedOperator (normalForm text) left right span).toReport.hint ↔
      ∀ spelling, FirstNearest text OperatorTable.standard.binarySpellings spelling ↔
        FirstNearest (normalForm text) OperatorTable.standard.binarySpellings spelling) ∧
    (collapsed text = text →
      (∀ c ∈ text.toList, c.toUpper ≠ c →
        ∀ spelling ∈ OperatorTable.standard.binarySpellings, c.toUpper ∉ spelling.toList) →
      (unsupportedOperator text left right span).toReport.hint =
        (unsupportedOperator (normalForm text) left right span).toReport.hint) := by
  have hiff : (unsupportedOperator text left right span).toReport.hint =
        (unsupportedOperator (normalForm text) left right span).toReport.hint ↔
      closest? text OperatorTable.standard.binarySpellings =
        closest? (normalForm text) OperatorTable.standard.binarySpellings :=
    Option.some_inj.trans operatorHint_eq_iff
  constructor
  · rw [hiff, Option.ext_iff]
    exact forall_congr' fun spelling => iff_congr closest?_eq_some_iff closest?_eq_some_iff
  · intro hblanks hletters
    refine hiff.2 (closest?_congr fun spelling hspelling => Eq.symm ?_)
    exact editDistance_normalForm hblanks (OperatorTable.toUpper_of_mem_standard spelling hspelling)
      fun c hc hsmall => hletters c hc hsmall spelling hspelling

/-- No standard spelling has a U or a P. -/
theorem hint_normalForm_up :
    (unsupportedOperator "up" .column .literal .zero).toReport.hint =
      (unsupportedOperator (normalForm "up") .column .literal .zero).toReport.hint := by
  have hletters : ∀ spelling ∈ OperatorTable.standard.binarySpellings,
      'U' ∉ spelling.toList ∧ 'P' ∉ spelling.toList :=
    OperatorTable.forall_mem_binarySpellings_standard (by decide +kernel)
  refine (hint_normalForm "up" .column .literal .zero).2 (by decide +kernel) ?_
  intro c hc _ spelling hspelling
  obtain rfl | rfl : c = 'u' ∨ c = 'p' := by simpa using hc
  · exact (hletters spelling hspelling).1
  · exact (hletters spelling hspelling).2

/-- The normal form of `notlike` is one edit away from NOT LIKE, and `notlike` itself is more
than three away from every spelling. -/
theorem hint_notlike :
    OperatorTable.standard.resolveBinary? "notlike" = none ∧
    (unsupportedOperator "notlike" .column .literal .zero).toReport.hint ≠
      (unsupportedOperator (normalForm "notlike") .column .literal .zero).toReport.hint := by
  decide +kernel

end ConvertError

end SqlAlgebra
