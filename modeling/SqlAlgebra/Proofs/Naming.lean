import SqlAlgebra.Proofs.Composition
import SqlAlgebra.Proofs.Embedding

/-!
# The names of select-list items

An item of a select list goes by the alias written on it. An expression, an aggregation or a
scalar subquery without one is named after its position. The position is kept in the innermost
scope and read only after the parts of the item have been converted, nested SELECTs with
positions of their own among them. Nevertheless every item is named after its own position:
`Compiler.convert_titles` says so for each SELECT of a statement, however deep it is nested.
Hence the derived names of one select list differ from one another.
-/

namespace SqlAlgebra

open Conversion ConvertM

/-! ## The select list of a plan -/

/-- The items that a SELECT projects to. They stand below order and paging, and on the left of a
set operation. -/
def Plan.listed? : Plan → Option (List Plan)
  | project _ items _ => some items
  | sort input _ _ _ => input.listed?
  | setOp _ _ left _ => left.listed?
  | _ => none

namespace SelectParts

/-- Order and paging keep the select list below them. -/
theorem listed?_sorted (orderBy : List Plan) (offset fetch : Option Plan) (p : Plan) :
    (sorted orderBy offset fetch p).listed? = p.listed? := by
  unfold sorted
  split <;> rfl

theorem listed?_combinedWith (combined : Option (CombineType × Plan)) (p : Plan) :
    (combinedWith combined p).listed? = p.listed? := by
  cases combined <;> rfl

/-- The plan of a SELECT projects to the items of its select list. -/
theorem listed?_plan {parts : SelectParts} {items : List Plan} {distinct : Bool}
    (h : parts.projections = some (items, distinct)) : parts.plan.listed? = some items := by
  rw [plan, listed?_sorted, listed?_combinedWith, h]
  rfl

end SelectParts

/-! ## Names from positions -/

/-- Whether an item is named after its position: it has no alias, and it is neither a column nor
a star. -/
def Projection.isAnonymous : Projection → Bool
  | .expression _ aliasName _ | .aggregation _ aliasName _ | .subquery _ aliasName _ =>
    aliasName.isNone
  | .column .. | .shorthand .. => false

/-- Different positions have different derived names. -/
theorem CompilerSettings.derivedAlias?_inj {settings : CompilerSettings}
    (h : settings.deriveAliases) {i j : Nat}
    (hij : settings.derivedAlias? i = settings.derivedAlias? j) : i = j := by
  simp only [derivedAlias?, h, if_true, Option.some.injEq, String.append_right_inj,
    Nat.repr_eq_ofList_toDigits, String.ofList_inj] at hij
  rw [← Nat.ofDigitChars_ten_toDigits (n := i), hij, Nat.ofDigitChars_ten_toDigits]

/-- An item without an alias is named after its position. -/
theorem aliasName?_of_itemForm {settings : CompilerSettings} {K : PartSpec} {ordinal : Nat}
    {x : Projection} {p : Plan} (hderive : settings.deriveAliases) (hx : x.isAnonymous)
    (h : ItemForm settings K ordinal x p) : p.aliasName? = settings.derivedAlias? ordinal := by
  have htitled : ∀ {aliasName : Option String} {span : Span} {p : Plan}, aliasName.isNone →
      (p.titled (aliasName.or (settings.derivedAlias? ordinal)) span).aliasName? =
        settings.derivedAlias? ordinal := by
    intro aliasName span p hnone
    rw [Option.isNone_iff_eq_none.1 hnone, Option.none_or, CompilerSettings.derivedAlias?,
      if_pos hderive]
    rfl
  cases h with
  | column c aliasName span => cases hx
  | expression _ => exact htitled hx
  | aggregation _ => exact htitled hx
  | shorthand owner span => cases hx
  | subquery _ => exact htitled hx

/-- The item at an index of a select list was converted at that position. -/
theorem item_of_itemsForm {K : PartSpec} {ordinal : Nat} {xs : List Projection}
    {ps : List Plan} (h : ItemsForm K ordinal xs ps) {i : Nat} {x : Projection} {p : Plan}
    (hi : (xs.zip ps)[i]? = some (x, p)) : K.item (ordinal + i) x p := by
  induction h generalizing i with
  | nil ordinal => simp at hi
  | @cons ordinal y ys q qs hq _ ih =>
    cases i with
    | zero =>
      obtain ⟨rfl, rfl⟩ : y = x ∧ q = p := by simpa using hi
      exact hq
    | succ i =>
      have hp := ih (i := i) (by simpa using hi)
      rwa [Nat.add_right_comm] at hp

namespace Compiler

/-- The items that a select list is projected to. Each of them is the item converted on its own
and named for the position it stands at, and no two are given the same name. -/
structure Titles (c : Compiler) (l : SelectList) (items : List Plan) : Prop where
  length : items.length = l.items.length
  item : ∀ i x p, (l.items.zip items)[i]? = some (x, p) →
    ItemForm c.settings c.standaloneSpec i x p
  distinct : c.settings.deriveAliases → ∀ (i j : Nat) (x y : Projection) (p q : Plan),
    (l.items.zip items)[i]? = some (x, p) → (l.items.zip items)[j]? = some (y, q) →
    x.isAnonymous → y.isAnonymous → p.aliasName? = q.aliasName? → i = j

/-- What is known about the plans of the parts, the names of items included. -/
def titleSpec (c : Compiler) : PartSpec :=
  { c.standaloneSpec with item := ItemForm c.settings c.standaloneSpec }

/-- Items that were converted at their positions are named for them. -/
theorem titles_of_itemsForm {c : Compiler} {l : SelectList} {items : List Plan}
    (h : ItemsForm c.titleSpec 0 l.items items) : c.Titles l items := by
  have hitem : ∀ i x p, (l.items.zip items)[i]? = some (x, p) →
      ItemForm c.settings c.standaloneSpec i x p := by
    intro i x p hi
    have hp := item_of_itemsForm h hi
    rwa [Nat.zero_add] at hp
  refine ⟨length_of_itemsForm h, hitem, fun hderive i j x y p q hi hj hx hy hpq => ?_⟩
  refine CompilerSettings.derivedAlias?_inj hderive ?_
  rw [← aliasName?_of_itemForm hderive hx (hitem i x p hi), hpq,
    aliasName?_of_itemForm hderive hy (hitem j y q hj)]

variable (settings : CompilerSettings)

/-- Every conversion gives items the names of their positions, as it does on its own. -/
theorem reads_titles (n : Nat) :
    Reads ((⟨settings, .standard⟩ : Compiler).convertWithin n)
      (⟨settings, .standard⟩ : Compiler).titleSpec := by
  have hgo := reads_standalone settings n
  exact {
    keeps := hgo.keeps
    expr := hgo.expr
    select := hgo.select
    table := hgo.table
    item := fun h => by
      cases n with
      | zero => cases h
      | succ n =>
        obtain ⟨_, _, h, hcontext⟩ := convertWithin_eq_ok h
        obtain ⟨_, h⟩ := handled_eq_ok (isDirect_handler_ofRules _ _ _) h
        obtain ⟨p, ho, hp⟩ := projectionRule_form (reads_standalone settings n) h
        rw [hcontext] at hp
        exact ⟨p, ho, hp⟩ }

/-- A SELECT that converts has a select list whose items are named for their positions. -/
theorem titles_of_ran {x : Segment} {q : Select} {l : SelectList} {p : Plan} {n : Nat}
    {s : Session}
    (h : (((⟨settings, .standard⟩ : Compiler).convertWithin n x).outcome s).1 = .ok (some p))
    (hx : x.query? = some q) (hl : q.projections = some l) :
    ∃ items, p.listed? = some items ∧ (⟨settings, .standard⟩ : Compiler).Titles l items := by
  obtain ⟨m, _, _, hselect⟩ := exists_outcome_selectWithin settings .standard hx h
  obtain @⟨parts, hparts⟩ := select_form (reads_titles settings m) hselect
  have hlist := hparts.projections
  rw [hl] at hlist
  generalize hr : parts.projections = r at hlist
  cases hlist with
  | @some _ r hitems =>
    obtain ⟨items, distinct⟩ := r
    exact ⟨items, SelectParts.listed?_plan hr, titles_of_itemsForm hitems.2.1⟩

/-- In the plan of a segment stands the plan of every SELECT that the segment reaches, and the
items it projects to are named after their positions in its select list. -/
theorem convert_titles {x y : Segment} {q : Select} {l : SelectList} {plan : Plan} {s : Session}
    (h : (((⟨settings, .standard⟩ : Compiler).convert x).outcome s).1 = .ok (some plan))
    (hy : x.Reaches y) (hq : y.query? = some q) (hl : q.projections = some l) :
    ∃ p ∈ plan.walk, (⟨settings, .standard⟩ : Compiler).Converts y p ∧
      ∃ items, p.listed? = some items ∧ (⟨settings, .standard⟩ : Compiler).Titles l items := by
  have hran : (standard settings .standard).Ran x plan := ⟨_, s, h⟩
  obtain ⟨p, hp, n, t, hrun⟩ := hran.exists_mem_walk hy
  have hconverts : (⟨settings, .standard⟩ : Compiler).Converts y p := by
    have hquiet : y.effect = .quiet := by
      unfold Segment.query? at hq
      split at hq
      · rfl
      · rfl
      · cases hq
    intro u _
    refine standalone_convert settings hrun u ?_
    rw [hquiet]
    trivial
  exact ⟨p, hp, hconverts, titles_of_ran settings hrun hq hl⟩

/-- `?, COUNT(*), a, ? AS b`. -/
def fourItems : SelectList :=
  ⟨false, [.expression (.parameter 0 .zero) none .zero,
    .aggregation ⟨.count, false, [], .zero⟩ none .zero, .column { name := "a" } none .zero,
    .expression (.parameter 1 .zero) (some "b") .zero], .zero⟩

/-- `SELECT ?, COUNT(*), a, ? AS b`. -/
def fourItemsAlone : Select :=
  ⟨some fourItems, none, none, none, none, none, none, none, .zero⟩

/-- `INSERT INTO t SELECT ?, (SELECT ?, COUNT(*), a, ? AS b), ?`. -/
def insertNested : Statement :=
  .insert ⟨{ name := "t" }, [], [], none, some ⟨⟨some ⟨false, [
    .expression (.parameter 2 .zero) none .zero, .subquery ⟨fourItemsAlone, .zero⟩ none .zero,
    .expression (.parameter 3 .zero) none .zero], .zero⟩, none, none, none, none, none, none,
    none, .zero⟩, .zero⟩, .zero⟩

/-- The inner select list of `insertNested` has positions of its own. -/
theorem convert_titles_nested : ∃ plan,
    ({} : Compiler).tryConvert insertNested = .ok (some plan) ∧
    ∃ p ∈ plan.walk, ({} : Compiler).Converts (.select fourItemsAlone) p ∧
      ∃ items, p.listed? = some items ∧ ({} : Compiler).Titles fourItems items := by
  have hsome : (({} : Compiler).tryConvert insertNested).toOption.join.isSome := by decide +kernel
  obtain ⟨plan, hplan⟩ := exists_tryConvert_eq hsome
  have hreaches : (Segment.statement insertNested).Reaches (.select fourItemsAlone) :=
    .head (List.mem_singleton.2 rfl) (.head (List.mem_cons_of_mem _ (List.mem_cons_self ..))
      (.single (List.mem_singleton.2 rfl)))
  exact ⟨plan, hplan, convert_titles {} hplan hreaches rfl rfl⟩

end Compiler

end SqlAlgebra
