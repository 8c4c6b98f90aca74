import SqlAlgebra.Proofs.Form
import SqlAlgebra.Proofs.Likeness

/-!
# Rows written as assignments

An INSERT can give its row as a SET list or as a column list with a row of values. The two are
converted along different paths. A SET list goes column by column, each with its value; the
other form first names all its columns, then checks the width of the row and converts it.
Naming a column neither fails nor changes the context, so the columns can be named at any time,
and either way the values are converted in order up to the first that fails or is missing
(`alike_assignments`). Hence the two statements have the same conversion
(`Compiler.convert_setRow`), whatever the registry makes of the values.
-/

namespace SqlAlgebra

/-- The columns of a SET list. -/
def SetClause.columns (set : SetClause) : List Column :=
  set.assignments.flatMap Assignment.columns

/-- The values of a SET list. -/
def SetClause.values (set : SetClause) : List Expr :=
  set.assignments.map Assignment.value

/-- `INSERT INTO table SET …`. -/
def Insert.ofSet (table : SimpleTable) (set : SetClause) (span : Span) : Insert :=
  { table, columns := [], rows := [], set := some set, query := none, span }

/-- `INSERT INTO table (columns) VALUES row`. -/
def Insert.ofRow (table : SimpleTable) (columns : List Column) (row : ValuesRow) (span : Span) :
    Insert :=
  { table, columns, rows := [row], set := none, query := none, span }

open Conversion ConvertM

variable {go : Descent} {view : ConvertError → ConvertError}

/-- Naming columns gives their names and leaves the context as it was. -/
theorem exists_outcome_columns : ∀ (cs : List Column) (s : Session),
    ∃ t, (columns cs).outcome s = (.ok (columnPlans cs), t) ∧ t.context = s.context
  | [], s => ⟨s, rfl, rfl⟩
  | c :: cs, s => by
    obtain ⟨t, ht, hcontext⟩ := exists_outcome_columns cs (s.seen c)
    refine ⟨t, ?_, hcontext.trans (s.context_seen c)⟩
    rw [columns, outcome_bind_of_ok (outcome_column c s), outcome_bind_of_ok ht]
    rfl

theorem exists_outcome_column (c : Column) (s : Session) :
    ∃ t, (column c).outcome s = (.ok (.identifier c.qualifiedName c.span), t) ∧
      t.context = s.context :=
  ⟨s.seen c, outcome_column c s, s.context_seen c⟩

/-- The values of a SET list are converted like a list of expressions, and its columns are
named on the way. -/
theorem alike_assignments (hgo : ∀ x, Alike view (go x) (go x)) (owner : SegmentKind) :
    ∀ as : List Assignment, (∀ a ∈ as, a.columns.length = 1) →
      Alike view (assignments go as)
        (Option.map (columnPlans (as.flatMap Assignment.columns), ·) <$>
          expressions go owner (as.map Assignment.value))
  | [], _ => by
    rw [List.map_nil, expressions, map_pure]
    exact alike_pure _
  | ⟨columns, value, span⟩ :: as, has => by
    obtain ⟨c, rfl⟩ := List.length_eq_one_iff.1 (has _ (List.mem_cons_self ..))
    have ih := alike_assignments hgo owner as fun a ha => has a (List.mem_cons_of_mem _ ha)
    refine alike_bind_of_ok (exists_outcome_column c) ?_
    rw [List.map_cons, expressions, map_bind]
    refine alike_bind (hgo (.expression value)) fun
      | none => ?_
      | some first => ?_
    · rw [map_bind]
      refine (alike_bind_of_ok (fun s => ⟨s.record _, rfl, rfl⟩) ?_).symm
      exact alike_pure none
    · dsimp only
      rw [map_bind]
      exact alike_bind_map ih fun
        | none => alike_pure none
        | some _ => alike_pure _

/-- If every assignment has one column, the SET list has as many columns as values. -/
theorem SetClause.length_columns {set : SetClause}
    (h : ∀ a ∈ set.assignments, a.columns.length = 1) :
    set.columns.length = set.values.length := by
  rw [columns, values, List.length_flatMap, List.map_congr_left h, List.map_const',
    List.sum_replicate_nat, Nat.mul_one, List.length_map]

/-- The row of an INSERT with a column for each value has the right width, also if it is
empty. -/
theorem Insert.width_ofRow {table : SimpleTable} {columns : List Column} {row : ValuesRow}
    {span : Span} (h : columns.length = row.values.length) :
    (Insert.ofRow table columns row span).width = row.values.length := by
  cases columns with
  | nil => rfl
  | cons c cs => exact h

/-- A single row is converted like the list of its values. -/
theorem valuesRows_singleton {width : Nat} {row : ValuesRow} (h : row.values.length = width) :
    valuesRows go width [row] =
      Option.map ([·]) <$> expressions go .insertStatement row.values := by
  rw [valuesRows, if_pos h, map_eq_pure_bind]
  congr 1
  funext o
  cases o <;> rfl

/-- The rows and the columns of an INSERT by SET are those of the INSERT by VALUES. -/
theorem alike_insertSource (hgo : ∀ x, Alike view (go x) (go x)) (table : SimpleTable)
    {set : SetClause} (hset : ∀ a ∈ set.assignments, a.columns.length = 1)
    (rowSpan span : Span) :
    Alike view (insertSource go (.ofSet table set span) [])
      (insertSource go (.ofRow table set.columns ⟨set.values, rowSpan⟩ span)
        (columnPlans set.columns)) := by
  have hwidth : (Insert.ofRow table set.columns ⟨set.values, rowSpan⟩ span).width =
      set.values.length :=
    Insert.width_ofRow (SetClause.length_columns hset)
  have hrows : insertSource go (.ofRow table set.columns ⟨set.values, rowSpan⟩ span)
        (columnPlans set.columns) =
      expressions go .insertStatement set.values >>= fun values =>
        pure (values.map fun values => (columnPlans set.columns, .values [values])) := by
    change valuesRows go _ [⟨set.values, rowSpan⟩] >>= _ = _
    rw [valuesRows_singleton hwidth.symm, bind_map_left]
    congr 1
    funext o
    cases o <;> rfl
  rw [hrows]
  exact alike_bind_map (alike_assignments hgo .insertStatement set.assignments hset) fun
    | none => alike_pure none
    | some _ => alike_pure _

/-- Both forms of an INSERT convert alike over a descent that does not look at the log. -/
theorem alike_insert (hgo : ∀ x, Alike view (go x) (go x)) (table : SimpleTable)
    {set : SetClause} (hset : ∀ a ∈ set.assignments, a.columns.length = 1)
    (rowSpan span : Span) :
    Alike view (Conversion.insert go (.ofSet table set span))
      (Conversion.insert go (.ofRow table set.columns ⟨set.values, rowSpan⟩ span)) := by
  refine alike_inScope (alike_bind (fun s₁ s₂ hs => ⟨rfl, ?_⟩) fun _ => ?_)
  · exact congrArg (Context.bindAlias table.bindingName) hs
  · refine alike_bind_of_ok (exists_outcome_columns []) ?_
    refine (alike_bind_of_ok (exists_outcome_columns set.columns) ?_).symm
    exact alike_bind (alike_insertSource hgo table hset rowSpan span).symm fun
      | none => alike_pure none
      | some _ => alike_pure _

namespace Compiler

/-- Both forms of an INSERT convert alike, however many levels are left. -/
theorem alike_convertWithin_setRow (c : Compiler) (table : SimpleTable) {set : SetClause}
    (hset : ∀ a ∈ set.assignments, a.columns.length = 1) (rowSpan span : Span) :
    ∀ levels, Alike view
      (c.convertWithin levels (.statement (.insert (.ofSet table set span))))
      (c.convertWithin levels
        (.statement (.insert (.ofRow table set.columns ⟨set.values, rowSpan⟩ span))))
  | 0 => alike_throw rfl
  | levels + 1 => by
    refine c.alike_convertWithin_succ rfl (alike_handled _ (fun r => ?_)
      (alike_convertWithin_setRow c table hset rowSpan span levels) rfl rfl)
    cases r with
    | insert => exact alike_insert (c.alike_convertWithin levels) table hset rowSpan span
    | select | update | delete => exact alike_throw rfl

/-- `INSERT INTO t SET c₁ = v₁, …, cₙ = vₙ` has the result of
`INSERT INTO t (c₁, …, cₙ) VALUES (v₁, …, vₙ)` and leaves the same context behind, whatever the
values convert to, if anything, and also for no assignments at all. -/
theorem convert_setRow (c : Compiler) (s : Session) (table : SimpleTable) (set : SetClause)
    (hset : ∀ a ∈ set.assignments, a.columns.length = 1) (rowSpan span : Span) :
    let bySet := (c.convert (.statement (.insert (.ofSet table set span)))).outcome s
    let byRow := (c.convert (.statement (.insert
      (.ofRow table set.columns ⟨set.values, rowSpan⟩ span)))).outcome s
    bySet.1 = byRow.1 ∧ bySet.2.context = byRow.2.context := by
  have h : Alike id _ _ :=
    c.alike_convert (c.alike_convertWithin_setRow table hset rowSpan span)
  exact ⟨h.result_eq s, (h s s rfl).2⟩

/-- `SET a = 7, t.b = ?`. -/
def twoAssignments : SetClause :=
  ⟨[⟨[{ name := "a" }], .literal (.integer 7) .zero, .zero⟩,
    ⟨[{ owner := some "t", name := "b" }], .parameter 0 .zero, .zero⟩], .zero⟩

/-- `INSERT INTO t SET a = 7, t.b = ?` inserts one row of two values. -/
theorem convert_setRow_two :
    ((({} : Compiler).convert
      (.statement (.insert (.ofSet { name := "t" } twoAssignments .zero)))).outcome {}).1 =
    .ok (some (.modify .insert (.scan ["t"] .zero)
      [.identifier ["a"] .zero, .identifier ["t", "b"] .zero]
      (some (.values [[.literal (.integer 7) .zero, .parameter 0 .zero]])) [] none)) :=
  (convert_setRow {} {} { name := "t" } twoAssignments (by decide) .zero .zero).1.trans rfl

end Compiler

end SqlAlgebra
