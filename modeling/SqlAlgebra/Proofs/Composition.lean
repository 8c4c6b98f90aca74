import SqlAlgebra.Proofs.Absence
import SqlAlgebra.Proofs.Threshold

/-!
# The composition of a SELECT

A SELECT is made up of clauses, and each of them is one layer of its plan or part of one. From
the inside out the layers are the source, WHERE, grouping, HAVING, the select list, a set
operation, and order and paging. `Composition.Composed` says so layer by layer: which clauses
call for a layer, and what stands in it.

What stands in a layer is what the part converts to on its own (`Compiler.Standalone`): from
every state the part has that value if the levels that are left are enough, and fails for want
of levels if they are not. So neither the other clauses of the SELECT nor the scopes around it
have a say. Only the items of a select list are converted at a position.
-/

namespace SqlAlgebra

open Conversion ConvertM

variable {α β : Type}

/-! ## Parts on their own -/

theorem Effect.Twins.symm {e : Effect} {c₁ c₂ : Context} (h : e.Twins c₁ c₂) :
    e.Twins c₂ c₁ := by
  cases e with
  | quiet => trivial
  | naming => exact Eq.symm h
  | binding => trivial
  | inner => exact And.symm h

namespace Compiler

/-- On its own, `m` has the value `a`. In every context that is `apt`, it has this value if at
least `height` levels are left, and fails for want of levels otherwise. -/
def Standalone (c : Compiler) (apt : Context → Prop) (height : Nat) (m : ConvertM α) (a : α) :
    Prop :=
  ∀ s, apt s.context → (m.outcome s).1 =
    if height ≤ c.levelsLeft s.context then .ok a
    else .error (.maxRecursion c.settings.maxDepth)

/-- On its own, a segment converts to a plan. -/
def Converts (c : Compiler) (x : Segment) (p : Plan) : Prop :=
  c.Standalone (fun _ => True) x.height (c.convert x) (some p)

/-- On its own, a select-list item converts to a plan at a position. -/
def ConvertsAt (c : Compiler) (ordinal : Nat) (x : Projection) (p : Plan) : Prop :=
  c.Standalone (fun here => here.ordinal = ordinal) (Segment.projection x).height
    (c.convert (.projection x)) (some p)

/-- Two runs that both come to an end agree, however many levels each of them has. -/
theorem ok_unique (c : Compiler) {n₁ n₂ : Nat} {x : Segment} {o₁ o₂ : Option Plan}
    {s₁ s₂ : Session} (htwins : x.effect.Twins s₁.context s₂.context)
    (h₁ : ((c.convertWithin n₁ x).outcome s₁).1 = .ok o₁)
    (h₂ : ((c.convertWithin n₂ x).outcome s₂).1 = .ok o₂) : o₁ = o₂ := by
  have hle : ∀ {n₁ n₂ : Nat} {o₁ o₂ : Option Plan} {s₁ s₂ : Session}, n₁ ≤ n₂ →
      x.effect.Twins s₁.context s₂.context →
      ((c.convertWithin n₁ x).outcome s₁).1 = .ok o₁ →
      ((c.convertWithin n₂ x).outcome s₂).1 = .ok o₂ → o₁ = o₂ := by
    intro n₁ n₂ o₁ o₂ s₁ s₂ hle htwins h₁ h₂
    rcases c.tracks_convertWithin True c.settings.maxDepth c.settings.maxDepth n₁ n₂ hle
      (.inl trivial) x s₁ s₂ htwins with ⟨-, limit, hlimit⟩ | ⟨o, ho₁, ho₂⟩
    · cases h₁.symm.trans hlimit
    · cases o with
      | error e => cases h₁.symm.trans ho₁
      | ok o =>
        exact (Except.ok.inj (h₁.symm.trans ho₁)).trans (Except.ok.inj (h₂.symm.trans ho₂)).symm
  rcases Nat.le_total n₁ n₂ with h | h
  · exact hle h htwins h₁ h₂
  · exact (hle h htwins.symm h₂ h₁).symm

variable (settings : CompilerSettings)

/-- A segment that has been converted to a plan once converts to it on its own. -/
theorem standalone_convert {n : Nat} {x : Segment} {p : Plan} {s : Session}
    (h : (((⟨settings, .standard⟩ : Compiler).convertWithin n x).outcome s).1 = .ok (some p)) :
    (⟨settings, .standard⟩ : Compiler).Standalone (x.effect.Twins s.context) x.height
      ((⟨settings, .standard⟩ : Compiler).convert x) (some p) := by
  have hverdict := (judges_convertWithin settings n x).ends s
  rw [h] at hverdict
  have hwf := (hverdict.2.1 x (List.mem_singleton.2 rfl)).1
  intro t htwins
  have hresult := (judges_convertWithin settings
    ((⟨settings, .standard⟩ : Compiler).levelsLeft t.context) x).ends t
  rcases hr : (((⟨settings, .standard⟩ : Compiler).convertWithin
      ((⟨settings, .standard⟩ : Compiler).levelsLeft t.context) x).outcome t).1 with e | o
  · rw [hr] at hresult
    obtain ⟨rfl, y, hy, hlow⟩ := hresult trivial (List.forall_mem_singleton.2 hwf)
    obtain rfl := List.mem_singleton.1 hy
    rw [if_neg (Nat.not_le.2 hlow)]
    exact hr
  · rw [hr] at hresult
    rw [if_pos (hresult.2.1 x (List.mem_singleton.2 rfl)).2, ok_unique _ htwins h hr]
    exact hr

/-- What is known about the plans of the parts: the parts convert to them on their own. -/
def standaloneSpec (c : Compiler) : PartSpec where
  expr x p := c.Converts (.expression x) p
  table t p := c.Converts (.table t) p
  select q p := c.Converts (.select q) p
  item ordinal x p := c.ConvertsAt ordinal x p

/-- What a conversion hands to its descent converts to the same plan on its own, since only hollow
tables convert to nothing. -/
theorem reads_standalone (n : Nat) :
    Reads ((⟨settings, .standard⟩ : Compiler).convertWithin n)
      (⟨settings, .standard⟩ : Compiler).standaloneSpec := by
  have hsome : ∀ {x : Segment} {s o t}, x.hollow = false →
      ((⟨settings, .standard⟩ : Compiler).convertWithin n x).outcome s = (.ok o, t) →
      ∃ p, o = some p ∧ (⟨settings, .standard⟩ : Compiler).Standalone
        (x.effect.Twins s.context) x.height
        ((⟨settings, .standard⟩ : Compiler).convert x) (some p) := by
    intro x s o t hx h
    have hverdict := (judges_convertWithin settings n x).ends s
    rw [h] at hverdict
    obtain ⟨p, rfl⟩ : ∃ p, o = some p := by
      rw [← Option.isSome_iff_exists, hverdict.2.2, hx]
      rfl
    exact ⟨p, rfl, standalone_convert settings (congrArg Prod.fst h)⟩
  exact {
    keeps := keeps_convertWithin _ n
    expr := fun h => by
      obtain ⟨p, ho, hp⟩ := hsome rfl h
      exact ⟨p, ho, fun t _ => hp t trivial⟩
    select := fun h => by
      obtain ⟨p, ho, hp⟩ := hsome rfl h
      exact ⟨p, ho, fun t _ => hp t trivial⟩
    table := fun h t _ => standalone_convert settings (congrArg Prod.fst h) t trivial
    item := fun h => by
      obtain ⟨p, ho, hp⟩ := hsome rfl h
      exact ⟨p, ho, fun t ht => hp t ht.symm⟩ }

end Compiler

/-! ### Items of GROUP BY and ORDER BY, and paging -/

/-- How many levels the conversion of a sort or grouping item takes. -/
def OrderItem.height : OrderItem → Nat
  | .expression x _ _ _ => (Segment.expression x).height
  | .column .. | .ordinal .. => 0

theorem directed_eq (direction : Direction) (span : Span) (key : Plan) :
    directed direction span key = pure (key.inDirection direction span) := by
  cases direction <;> rfl

theorem nullsPlaced_eq (nulls : Option NullsOrder) (key : Plan) :
    nullsPlaced nulls key = pure (key.withNulls nulls) := by
  rcases nulls with _ | _ | _ <;> rfl

namespace Compiler

variable {c : Compiler} {apt : Context → Prop} {height : Nat}

/-- What needs no levels has its value on its own. -/
theorem standalone_of_result {m : ConvertM α} {a : α} (h : ∀ s, (m.outcome s).1 = .ok a) :
    c.Standalone apt 0 m a := by
  intro s _
  rw [if_pos (Nat.zero_le _), h]

/-- What has a value on its own goes on with it. -/
theorem Standalone.bind {m : ConvertM α} {f : α → ConvertM β} {a : α} {b : β}
    (hm : c.Standalone apt height m a) (hf : ∀ s, ((f a).outcome s).1 = .ok b) :
    c.Standalone apt height (m >>= f) b := by
  intro s hs
  have h := hm s hs
  split at h <;> rename_i hheight
  · rw [if_pos hheight, outcome_bind_of_ok (Prod.ext h rfl), hf]
  · rw [if_neg hheight, outcome_bind_of_error (Prod.ext h rfl)]

theorem standalone_itemKey {item : OrderItem} {p : Plan} (h : KeyForm c.standaloneSpec item p) :
    c.Standalone (fun _ => True) item.height (itemKey c.convert item) (some p) := by
  cases h with
  | column col _ _ _ =>
    exact standalone_of_result fun s => congrArg Prod.fst
      (outcome_bind_of_ok (Prod.ext (result_column col s) rfl))
  | expression hp => exact hp
  | ordinal hp =>
    refine standalone_of_result fun s => ?_
    rw [itemKey, hp]
    rfl

/-- An item of ORDER BY has its plan on its own. -/
theorem standalone_orderItem {item : OrderItem} {p : Plan}
    (h : SortForm c.standaloneSpec item p) :
    c.Standalone (fun _ => True) item.height (orderItem c.convert item) (some p) := by
  obtain ⟨hkey⟩ := h
  refine (standalone_itemKey hkey).bind fun s => ?_
  simp only [directed_eq, nullsPlaced_eq]
  rfl

theorem result_pageValue {value : PageValue} {p : Plan} (h : PageForm value p) (s : Session) :
    ((pageValue value).outcome s).1 = .ok p := by
  cases h with
  | number hp =>
    rw [pageValue, hp]
    rfl
  | parameter index span => rfl

end Compiler

/-! ## Layers -/

namespace Composition

variable (c : Compiler)

/-- The source of a SELECT; without FROM it is a single empty row. -/
inductive Sourced : Option Table → Plan → Prop
  | row : Sourced none (.values [[]])
  | table {t : Table} {p : Plan} (hp : c.Converts (.table t) p) : Sourced (some t) p

/-- A filter for a WHERE or HAVING clause. -/
inductive Filtered : Option Condition → Plan → Plan → Prop
  | none (p : Plan) : Filtered none p p
  | filter {clause : Condition} {p x : Plan} (hx : c.Converts (.expression clause.expr) x) :
    Filtered (some clause) p (.filter p x)

/-- An aggregate for GROUP BY or HAVING; without GROUP BY it has no keys. -/
inductive Grouped : Option OrderClause → Option Condition → Plan → Plan → Prop
  | none (p : Plan) : Grouped none none p p
  | aggregate {groupBy : Option OrderClause} {having : Option Condition} {p : Plan}
      {keys : List Plan} (hpresent : groupBy.isSome ∨ having.isSome)
      (hkeys : List.Forall₂ (fun item key => c.Standalone (fun _ => True) item.height
        (itemKey c.convert item) (some key)) (groupBy.elim [] OrderClause.items) keys) :
    Grouped groupBy having p (.aggregate p keys)

/-- A projection for the select list, with each item converted at its position. -/
inductive Listed : Option SelectList → Plan → Plan → Prop
  | none (p : Plan) : Listed none p p
  | project {l : SelectList} {p : Plan} {items : List Plan}
      (hitems : List.Forall₂ (fun (x : Projection × Nat) item => c.ConvertsAt x.2 x.1 item)
        l.items.zipIdx items) :
    Listed (some l) p (.project p items l.distinct)

/-- A set operation for a combination, with the combined SELECT on the right. -/
inductive Combined : Option Combine → Plan → Plan → Prop
  | none (p : Plan) : Combined none p p
  | setOp {clause : Combine} {p right : Plan}
      (hright : c.Converts (.select clause.query.select) right) :
    Combined (some clause) p
      (.setOp clause.type.setOperation.1 clause.type.setOperation.2 p right)

/-- A sort for ORDER BY, an offset or a row count. -/
inductive Sorted : Option OrderClause → Option Limit → Plan → Plan → Prop
  | none {limit : Option Limit} (hoffset : limit.bind Limit.offset = none)
      (hcount : limit.bind Limit.rowCount = none) (p : Plan) : Sorted none limit p p
  | sort {orderBy : Option OrderClause} {limit : Option Limit} {p : Plan} {keys : List Plan}
      {offset fetch : Option Plan}
      (hpresent : orderBy.isSome ∨ (limit.bind Limit.offset).isSome ∨
        (limit.bind Limit.rowCount).isSome)
      (hkeys : List.Forall₂ (fun item key => c.Standalone (fun _ => True) item.height
        (orderItem c.convert item) (some key)) (orderBy.elim [] OrderClause.items) keys)
      (hoffset : Option.Rel (fun value p => ∀ s, ((pageValue value).outcome s).1 = .ok p)
        (limit.bind Limit.offset) offset)
      (hfetch : Option.Rel (fun value p => ∀ s, ((pageValue value).outcome s).1 = .ok p)
        (limit.bind Limit.rowCount) fetch) :
    Sorted orderBy limit p (.sort p keys offset fetch)

/-- The plan of a SELECT, layer by layer. -/
inductive Composed (q : Select) : Plan → Prop
  | layers {source filtered grouped kept listed combined plan : Plan}
      (hsource : Sourced c q.source source)
      (hcondition : Filtered c q.condition source filtered)
      (hgroup : Grouped c q.groupBy q.having filtered grouped)
      (hhaving : Filtered c q.having grouped kept)
      (hlist : Listed c q.projections kept listed)
      (hcombine : Combined c q.combine listed combined)
      (hsort : Sorted c q.orderBy q.limit combined plan) : Composed q plan

/-! ### Layers from the clauses -/

variable {c}

/-- The innermost layer is the source. -/
theorem sourced_of_sourceForm {source : Option Table} {p : Plan}
    (h : SourceForm c.standaloneSpec source p) : Sourced c source p := by
  cases h with
  | none => exact .row
  | some hp => exact .table hp

/-- WHERE adds a layer if it is there. -/
theorem filtered_of_rel {clause : Option Condition} {o : Option Plan}
    (h : Option.Rel (fun clause p => c.standaloneSpec.expr clause.expr p) clause o) (p : Plan) :
    Filtered c clause p (SelectParts.filtered o p) := by
  cases h with
  | none => exact .none p
  | some hx => exact .filter hx

/-- GROUP BY and HAVING each call for an aggregate, and share it. -/
theorem grouped_of_rel {groupBy : Option OrderClause} {having : Option Condition}
    {keys : Option (List Plan)} {o : Option Plan}
    (hkeys : Option.Rel (fun (clause : OrderClause) keys => clause.items ≠ [] ∧
      List.Forall₂ (KeyForm c.standaloneSpec) clause.items keys) groupBy keys)
    (hhaving : Option.Rel (fun clause p => c.standaloneSpec.expr clause.expr p) having o)
    (p : Plan) : Grouped c groupBy having p (SelectParts.grouped keys o p) := by
  cases hkeys with
  | some hkeys =>
    exact .aggregate (.inl rfl) (hkeys.2.imp fun _ _ => Compiler.standalone_itemKey)
  | none =>
    cases hhaving with
    | none => exact .none p
    | some _ => exact .aggregate (.inr rfl) .nil

/-- The items of a select list are numbered by their positions. -/
theorem forall₂_zipIdx {K : PartSpec} {ordinal : Nat} {xs : List Projection} {ps : List Plan}
    (h : ItemsForm K ordinal xs ps) :
    List.Forall₂ (fun (x : Projection × Nat) p => K.item x.2 x.1 p) (xs.zipIdx ordinal) ps := by
  induction h with
  | nil => exact .nil
  | cons hp _ ih =>
    rw [List.zipIdx_cons]
    exact .cons hp ih

theorem listed_of_rel {projections : Option SelectList} {o : Option (List Plan × Bool)}
    (h : Option.Rel (fun (l : SelectList) r => l.items ≠ [] ∧
      ItemsForm c.standaloneSpec 0 l.items r.1 ∧ r.2 = l.distinct) projections o) (p : Plan) :
    Listed c projections p (SelectParts.projected o p) := by
  cases h with
  | none => exact .none p
  | @some l r hitems =>
    obtain ⟨items, distinct⟩ := r
    obtain ⟨-, hitems, rfl⟩ := hitems
    exact .project (forall₂_zipIdx hitems)

/-- A set operation adds a layer if it is there. -/
theorem combined_of_rel {combine : Option Combine} {o : Option (CombineType × Plan)}
    (h : Option.Rel (fun (clause : Combine) r => r.1 = clause.type ∧
      c.standaloneSpec.select clause.query.select r.2) combine o) (p : Plan) :
    Combined c combine p (SelectParts.combinedWith o p) := by
  cases h with
  | none => exact .none p
  | @some clause r hright =>
    obtain ⟨type, right⟩ := r
    obtain ⟨rfl, hright⟩ := hright
    exact .setOp hright

theorem isSome_eq_of_rel {R : α → β → Prop} {x : Option α} {y : Option β}
    (h : Option.Rel R x y) : x.isSome = y.isSome := by
  cases h <;> rfl

theorem rel_pageValue {value : Option PageValue} {o : Option Plan}
    (h : Option.Rel PageForm value o) :
    Option.Rel (fun value p => ∀ s, ((pageValue value).outcome s).1 = .ok p) value o := by
  cases h with
  | none => exact .none
  | some hp => exact .some (Compiler.result_pageValue hp)

/-- ORDER BY and LIMIT share a layer, which is there if one of them is. -/
theorem sorted_of_rel {orderBy : Option OrderClause} {limit : Option Limit}
    {keys : Option (List Plan)} {offset fetch : Option Plan}
    (hkeys : Option.Rel (fun (clause : OrderClause) keys => clause.items ≠ [] ∧
      List.Forall₂ (SortForm c.standaloneSpec) clause.items keys) orderBy keys)
    (hoffset : Option.Rel PageForm (limit.bind Limit.offset) offset)
    (hfetch : Option.Rel PageForm (limit.bind Limit.rowCount) fetch) (p : Plan) :
    Sorted c orderBy limit p (SelectParts.sorted (keys.getD []) offset fetch p) := by
  have hoffset' := isSome_eq_of_rel hoffset
  have hfetch' := isSome_eq_of_rel hfetch
  cases hkeys with
  | @some clause keys hkeys =>
    have hkeys' := hkeys.2.imp fun _ _ => Compiler.standalone_orderItem
    cases keys with
    | nil => exact absurd (List.forall₂_nil_right_iff.1 hkeys.2) hkeys.1
    | cons key keys =>
      exact .sort (.inl rfl) hkeys' (rel_pageValue hoffset) (rel_pageValue hfetch)
  | none =>
    cases offset with
    | some n =>
      exact .sort (.inr (.inl hoffset')) .nil (rel_pageValue hoffset) (rel_pageValue hfetch)
    | none =>
      cases fetch with
      | some n =>
        exact .sort (.inr (.inr hfetch')) .nil (rel_pageValue hoffset) (rel_pageValue hfetch)
      | none =>
        have hnone : ∀ {o : Option PageValue}, o.isSome = false → o = none :=
          fun h => Option.isNone_iff_eq_none.1 (Option.isSome_eq_false_iff.1 h)
        exact .none (hnone hoffset') (hnone hfetch') p

/-- A SELECT is composed of its layers. -/
theorem composed_of_selectForm {q : Select} {plan : Plan}
    (h : SelectForm c.standaloneSpec q plan) : Composed c q plan := by
  obtain @⟨parts, hparts⟩ := h
  obtain ⟨keys, hkeys, horder⟩ := hparts.orderBy
  refine .layers (sourced_of_sourceForm hparts.source) (filtered_of_rel hparts.condition _)
    (grouped_of_rel hparts.groupBy hparts.having _) (filtered_of_rel hparts.having _)
    (listed_of_rel hparts.projections _) (combined_of_rel hparts.combined _) ?_
  rw [SelectParts.plan, hkeys]
  exact sorted_of_rel horder hparts.offset hparts.fetch _

end Composition

namespace Compiler

/-- Wherever a SELECT stands, and whatever the settings, its plan is composed of its clauses. -/
theorem convert_composed (settings : CompilerSettings) {x : Segment} {q : Select} {plan : Plan}
    {s : Session} (hx : x.query? = some q)
    (h : (((⟨settings, .standard⟩ : Compiler).convert x).outcome s).1 = .ok (some plan)) :
    Composition.Composed ⟨settings, .standard⟩ q plan := by
  obtain ⟨levels, _, _, hselect⟩ := exists_outcome_select settings .standard hx h
  exact Composition.composed_of_selectForm (select_form (reads_standalone settings levels) hselect)

/-- `SELECT DISTINCT ?, t.* FROM t HAVING ? UNION ALL (TABLE u) LIMIT ?`. -/
def unitedPage : Select where
  projections := some ⟨true, [.expression (.parameter 0 .zero) none .zero,
    .shorthand (some "t") .zero], .zero⟩
  source := some (.simple { name := "t" })
  condition := none
  groupBy := none
  having := some ⟨.parameter 1 .zero, .zero⟩
  orderBy := none
  limit := some ⟨none, some (.parameter 2 .zero), .zero⟩
  combine := some ⟨.unionAll, ⟨⟨none, some (.simple { name := "u" }), none, none, none, none,
    none, none, .zero⟩, .zero⟩, .zero⟩
  span := .zero

/-- Nested in another SELECT, `unitedPage` is a sort of a set operation of a projection, over all
rows of the table grouped together. -/
theorem convert_composed_unitedPage :
    ∃ keep item, Composition.Composed {} unitedPage
      (.sort (.setOp .union true
        (.project (.filter (.aggregate (.scan ["t"] .zero) []) keep) [item, .star (some "t") .zero]
          true)
        (.scan ["u"] .zero)) [] none (some (.parameter 2 .zero))) :=
  ⟨_, _, convert_composed {} (x := .select unitedPage)
    (s := ⟨⟨2, [.subquery, .selectStatement], [⟨["o"], 3⟩]⟩, []⟩) rfl rfl⟩

end Compiler

end SqlAlgebra
