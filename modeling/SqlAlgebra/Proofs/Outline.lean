import SqlAlgebra.Plan.Render
import SqlAlgebra.Proofs.Reference

/-!
# The outline of a plan

`Plan.indented` writes a plan over several lines, and a reader takes the lines for nodes and
the margin for the depth. Whether this is right is not plain from the recursion: the scalar
parts of a node are written inline by `Plan.render`, and one line break in there would add a
line that no node has. So `Plan.OneLine` asks of a plan that none of its own texts, which are
names, operators and literals, has a line break.

A text is read back by splitting it at its line breaks. The nodes that get a line are the
`spine` of the plan in pre-order, and `below` says which nodes stand below another. Then
`indented_lines` reads the outline of a one-line plan back as the labels along the spine, each
behind a margin of two spaces for each step of depth. The proof is in two halves. Every
outline is the concatenation of its lines, with no condition on the plan (`toList_indentedAt`),
and a one-line plan has renderings and labels without a line break (`unbroken_render`,
`unbroken_label`).
-/

namespace SqlAlgebra

/-! ## Texts without line breaks -/

namespace Text

/-- A text without a line break. -/
def Unbroken (s : String) : Prop := '\n' ∉ s.toList

instance (s : String) : Decidable (Unbroken s) := inferInstanceAs (Decidable (¬ _))

theorem unbroken_append {s t : String} : Unbroken (s ++ t) ↔ Unbroken s ∧ Unbroken t := by
  simp [Unbroken, not_or]

/-- Texts without line breaks can be joined by a separator without one. -/
theorem unbroken_intercalate {separator : String} (h : Unbroken separator) :
    ∀ {texts : List String}, (∀ s ∈ texts, Unbroken s) → Unbroken (separator.intercalate texts)
  | [], _ => List.not_mem_nil
  | [s], hs => by simpa using hs
  | s :: t :: texts, hs => by
    obtain ⟨hs, ht⟩ := List.forall_mem_cons.1 hs
    rw [String.intercalate_cons_cons, unbroken_append, unbroken_append]
    exact ⟨⟨hs, h⟩, unbroken_intercalate h ht⟩

theorem unbroken_repr (n : Nat) : Unbroken n.repr := by
  intro h
  have hdigits : '\n' ∈ Nat.toDigits 10 n := by simpa [Nat.repr] using h
  have hdigit := Nat.isDigit_of_mem_toDigits (by decide) (by decide) hdigits
  cases hdigit

theorem unbroken_intRepr (i : Int) : Unbroken i.repr := by
  cases i with
  | ofNat n => exact unbroken_repr n
  | negSucc n => exact unbroken_append.2 ⟨by decide, unbroken_repr (n + 1)⟩

end Text

open Text

/-! ## Literals and words -/

namespace Literal

/-- The text of a literal that is written by its text. -/
def text? : Literal → Option String
  | decimal text | string text => some text
  | null | boolean _ | integer _ => none

theorem mem_doubleQuotes {c : Char} {cs : List Char} (h : c ∈ doubleQuotes cs) : c ∈ cs := by
  fun_induction doubleQuotes cs with
  | case1 => exact h
  | case2 cs ih => exact List.mem_cons.2 (by simp at h; tauto)
  | case3 d cs hd ih => exact List.mem_cons.2 ((List.mem_cons.1 h).imp_right ih)

/-- A plan without line breaks in its texts is rendered without one. -/
theorem unbroken_render {value : Literal} (h : ∀ s ∈ value.text?, Unbroken s) :
    Unbroken value.render := by
  cases value with
  | null => decide
  | boolean b => cases b <;> decide
  | integer i => exact unbroken_intRepr _
  | decimal text => exact h text rfl
  | string s =>
    have hs : '\n' ∉ doubleQuotes s.toList := fun hmem => h s rfl (mem_doubleQuotes hmem)
    simpa [render, Unbroken] using hs

end Literal

theorem JoinType.unbroken_label (type : JoinType) (natural : Bool) :
    Unbroken (type.label natural) := by
  cases type <;> cases natural <;> decide

theorem SetOperation.unbroken_label (operation : SetOperation) (all : Bool) :
    Unbroken (operation.label all) := by
  cases operation <;> cases all <;> decide

theorem Modification.unbroken_name (operation : Modification) : Unbroken operation.name := by
  cases operation <;> decide

namespace Plan

/-! ## Lists of texts -/

section Lists

variable {texts : List String} {mark : String}

/-- Texts without line breaks can be listed. -/
theorem unbroken_commas (h : ∀ s ∈ texts, Unbroken s) : Unbroken (commas texts) :=
  unbroken_intercalate (by decide) h

/-- Texts without line breaks can be listed in parentheses. -/
theorem unbroken_bracketed (h : ∀ s ∈ texts, Unbroken s) : Unbroken (bracketed texts) := by
  rw [bracketed, unbroken_append, unbroken_append]
  exact ⟨⟨by decide, unbroken_commas h⟩, by decide⟩

theorem unbroken_labelled {text : Option String} (hmark : Unbroken mark)
    (h : ∀ s ∈ text, Unbroken s) : Unbroken (labelled mark text) := by
  cases text with
  | none => exact List.not_mem_nil
  | some s => exact unbroken_append.2 ⟨hmark, h s rfl⟩

theorem unbroken_labelledList (hmark : Unbroken mark) (h : ∀ s ∈ texts, Unbroken s) :
    Unbroken (labelledList mark texts) := by
  unfold labelledList
  split
  · exact List.not_mem_nil
  · exact unbroken_append.2 ⟨hmark, unbroken_bracketed h⟩

theorem unbroken_distinctMark (distinct : Bool) : Unbroken (distinctMark distinct) := by
  cases distinct <;> decide

end Lists

/-! ## Renderings of several plans -/

theorem renderAll_eq : ∀ plans : List Plan, renderAll plans = plans.map render
  | [] => rfl
  | plan :: plans => by rw [renderAll, renderAll_eq plans, List.map_cons]

theorem renderRows_eq : ∀ rows : List (List Plan),
    renderRows rows = rows.map fun row => bracketed (row.map render)
  | [] => rfl
  | row :: rows => by rw [renderRows, renderRows_eq rows, renderAll_eq, List.map_cons]

theorem renderOption_eq (o : Option Plan) : renderOption o = o.map render := by
  cases o <;> rfl

theorem unbroken_renderAll {plans : List Plan} (h : ∀ p ∈ plans, Unbroken p.render) :
    ∀ s ∈ renderAll plans, Unbroken s := by
  rw [renderAll_eq]
  exact List.forall_mem_map.2 h

theorem unbroken_renderRows {rows : List (List Plan)}
    (h : ∀ row ∈ rows, ∀ p ∈ row, Unbroken p.render) : ∀ s ∈ renderRows rows, Unbroken s := by
  rw [renderRows_eq]
  exact List.forall_mem_map.2 fun row hrow =>
    unbroken_bracketed (List.forall_mem_map.2 (h row hrow))

theorem unbroken_renderOption {o : Option Plan} (h : ∀ p ∈ o, Unbroken p.render) :
    ∀ s ∈ renderOption o, Unbroken s := by
  rw [renderOption_eq]
  intro s hs
  obtain ⟨p, hp, rfl⟩ := Option.map_eq_some_iff.1 hs
  exact h p hp

/-! ## Plans without line breaks -/

/-- The names, operators and literals that a node has itself, apart from its children. -/
def texts : Plan → List String
  | scan table _ => table
  | join _ _ _ _ (.columns names) => names
  | call op _ _ _ => [op.name]
  | identifier names _ => names
  | literal value _ => value.text?.toList
  | _ => []

/-- No text of any node in the plan has a line break. -/
def OneLine (p : Plan) : Prop :=
  ∀ q ∈ p.walk, ∀ s ∈ q.texts, Unbroken s

instance (p : Plan) : Decidable p.OneLine := inferInstanceAs (Decidable (∀ _ ∈ _, _))

/-- A plan is on one line if its own texts and its children are. -/
theorem oneLine_iff (p : Plan) :
    p.OneLine ↔ (∀ s ∈ p.texts, Unbroken s) ∧ ∀ c ∈ p.children, c.OneLine := by
  simp only [OneLine, walk_eq p, List.forall_mem_cons, List.mem_flatMap]
  grind

/-- A walk through a child is shorter than one through the plan. -/
theorem length_walk_lt {p c : Plan} (h : c ∈ p.children) : c.walk.length < p.walk.length := by
  rw [walk_eq p, List.length_cons, List.flatMap_def]
  exact Nat.lt_succ_of_le (List.sublist_flatten_of_mem (List.mem_map_of_mem h)).length_le

/-- What a node has whenever its children have it, every plan has. -/
theorem induction_children {P : Plan → Prop} (h : ∀ p, (∀ c ∈ p.children, P c) → P p)
    (p : Plan) : P p :=
  h p fun c _ => induction_children h c
termination_by p.walk.length
decreasing_by exact length_walk_lt ‹_›

/-- The condition of a join has no line break if its texts and the rendering of its expression have
none. -/
theorem unbroken_renderCondition {left right : Plan} {type : JoinType} {natural : Bool}
    {matched : JoinCondition}
    (htexts : ∀ s ∈ (join left right type natural matched).texts, Unbroken s)
    (hrender : ∀ c ∈ (join left right type natural matched).children, Unbroken c.render) :
    ∀ s ∈ renderCondition matched, Unbroken s := by
  cases matched with
  | none => exact nofun
  | condition p =>
    rintro s ⟨⟩
    exact unbroken_append.2 ⟨by decide, hrender p (by simp [children])⟩
  | columns names =>
    rintro s ⟨⟩
    exact unbroken_append.2 ⟨by decide, unbroken_bracketed htexts⟩

/-- The step of `unbroken_render`: a rendering adds no line break to what the node has and to
what its children render to. -/
theorem unbroken_render_node (p : Plan) (htexts : ∀ s ∈ p.texts, Unbroken s)
    (hrender : ∀ c ∈ p.children, Unbroken c.render) : Unbroken p.render := by
  cases p with
  | scan table span =>
    change Unbroken ("Scan(" ++ ".".intercalate table ++ ")")
    simp only [unbroken_append, and_assoc]
    exact ⟨by decide, unbroken_intercalate (by decide) htexts, by decide⟩
  | project input exprs distinct =>
    obtain ⟨hinput, hexprs⟩ := List.forall_mem_cons.1 hrender
    change Unbroken ("Project(" ++ distinctMark distinct ++ bracketed (renderAll exprs) ++ ", " ++
      input.render ++ ")")
    simp only [unbroken_append, and_assoc]
    exact ⟨by decide, unbroken_distinctMark distinct,
      unbroken_bracketed (unbroken_renderAll hexprs), by decide, hinput, by decide⟩
  | filter input condition =>
    change Unbroken ("Filter(" ++ condition.render ++ ", " ++ input.render ++ ")")
    simp only [unbroken_append, and_assoc]
    exact ⟨by decide, hrender condition (by simp [children]), by decide,
      hrender input (by simp [children]), by decide⟩
  | join left right type natural matched =>
    obtain ⟨hleft, hright⟩ := mem_children_join left right type natural matched
    change Unbroken ("Join(" ++ type.label natural ++ ", " ++ left.render ++ ", " ++
      right.render ++ labelled ", " (renderCondition matched) ++ ")")
    simp only [unbroken_append, and_assoc]
    exact ⟨by decide, type.unbroken_label natural, by decide, hrender left hleft, by decide,
      hrender right hright,
      unbroken_labelled (by decide) (unbroken_renderCondition htexts hrender), by decide⟩
  | setOp operation all left right =>
    change Unbroken ("SetOp(" ++ operation.label all ++ ", " ++ left.render ++ ", " ++
      right.render ++ ")")
    simp only [unbroken_append, and_assoc]
    exact ⟨by decide, operation.unbroken_label all, by decide,
      hrender left (by simp [children]), by decide, hrender right (by simp [children]),
      by decide⟩
  | aggregate input groupBy =>
    obtain ⟨hinput, hgroup⟩ := List.forall_mem_cons.1 hrender
    change Unbroken ("Aggregate(" ++ bracketed (renderAll groupBy) ++ ", " ++ input.render ++ ")")
    simp only [unbroken_append, and_assoc]
    exact ⟨by decide, unbroken_bracketed (unbroken_renderAll hgroup), by decide, hinput,
      by decide⟩
  | sort input orderBy offset fetch =>
    simp only [children, List.cons_append, List.forall_mem_cons, List.forall_mem_append,
      Option.mem_toList] at hrender
    obtain ⟨hinput, ⟨horder, hoffset⟩, hfetch⟩ := hrender
    change Unbroken ("Sort(" ++ bracketed (renderAll orderBy) ++
      labelled ", offset=" (renderOption offset) ++ labelled ", fetch=" (renderOption fetch) ++
      ", " ++ input.render ++ ")")
    simp only [unbroken_append, and_assoc]
    exact ⟨by decide, unbroken_bracketed (unbroken_renderAll horder),
      unbroken_labelled (by decide) (unbroken_renderOption hoffset),
      unbroken_labelled (by decide) (unbroken_renderOption hfetch), by decide, hinput,
      by decide⟩
  | values rows =>
    have hrows : ∀ row ∈ rows, ∀ p ∈ row, Unbroken p.render := fun row hrow p hp =>
      hrender p (List.mem_flatten.2 ⟨row, hrow, hp⟩)
    change Unbroken ("Values(" ++ commas (renderRows rows) ++ ")")
    simp only [unbroken_append, and_assoc]
    exact ⟨by decide, unbroken_commas (unbroken_renderRows hrows), by decide⟩
  | modify operation target columns source expressions condition =>
    simp only [children, List.cons_append, List.forall_mem_cons, List.forall_mem_append,
      Option.mem_toList] at hrender
    obtain ⟨htarget, ⟨⟨hcolumns, hsource⟩, hexpressions⟩, hcondition⟩ := hrender
    change Unbroken ("TableModify(" ++ operation.name ++ ", " ++ target.render ++
      labelledList ", columns=" (renderAll columns) ++
      labelledList ", set=" (renderAll expressions) ++
      labelled ", where=" (renderOption condition) ++ labelled ", " (renderOption source) ++ ")")
    simp only [unbroken_append, and_assoc]
    exact ⟨by decide, operation.unbroken_name, by decide, htarget,
      unbroken_labelledList (by decide) (unbroken_renderAll hcolumns),
      unbroken_labelledList (by decide) (unbroken_renderAll hexpressions),
      unbroken_labelled (by decide) (unbroken_renderOption hcondition),
      unbroken_labelled (by decide) (unbroken_renderOption hsource), by decide⟩
  | call op operands distinct span =>
    change Unbroken (op.name ++ "(" ++ distinctMark distinct ++ commas (renderAll operands) ++ ")")
    simp only [unbroken_append, and_assoc]
    exact ⟨htexts op.name (List.mem_singleton_self _), by decide, unbroken_distinctMark distinct,
      unbroken_commas (unbroken_renderAll hrender), by decide⟩
  | identifier names span => exact unbroken_intercalate (by decide) htexts
  | literal value span =>
    exact Literal.unbroken_render fun s hs => htexts s (Option.mem_toList.2 hs)
  | parameter index span => exact unbroken_append.2 ⟨by decide, unbroken_repr _⟩
  | list items span =>
    change Unbroken ("(" ++ commas (renderAll items) ++ ")")
    simp only [unbroken_append, and_assoc]
    exact ⟨by decide, unbroken_commas (unbroken_renderAll hrender), by decide⟩

theorem unbroken_render (p : Plan) : p.OneLine → Unbroken p.render := by
  induction p using induction_children with
  | h p ih =>
    intro h
    obtain ⟨htexts, hchildren⟩ := (oneLine_iff p).1 h
    exact unbroken_render_node p htexts fun c hc => ih c hc (hchildren c hc)

/-! ## Labels -/

/-- An alias is a name of a child, so it is among the texts of the plan. -/
theorem unbroken_aliasName {p : Plan} (h : p.OneLine) : ∀ s ∈ p.aliasName?, Unbroken s := by
  intro s hs
  unfold aliasName? at hs
  split at hs
  · next names namesSpan _ _ _ =>
    have hchild := ((oneLine_iff _).1 h).2 (identifier names namesSpan) (by simp [children])
    exact ((oneLine_iff _).1 hchild).1 s (List.mem_of_getLast? hs)
  · cases hs

/-- A one-line plan has a label without a line break, as the label renders children whole. -/
theorem unbroken_label (p : Plan) (h : p.OneLine) : Unbroken p.label := by
  obtain ⟨htexts, hchildren⟩ := (oneLine_iff p).1 h
  have hrender : ∀ c ∈ p.children, Unbroken c.render := fun c hc =>
    unbroken_render c (hchildren c hc)
  cases p with
  | scan table span =>
    exact unbroken_append.2 ⟨by decide, unbroken_intercalate (by decide) htexts⟩
  | project input exprs distinct =>
    obtain ⟨-, hexprs⟩ := List.forall_mem_cons.1 hrender
    change Unbroken ("Project:" ++ (if distinct then " distinct" else "") ++ " " ++
      bracketed (renderAll exprs))
    simp only [unbroken_append, and_assoc]
    exact ⟨by decide, by cases distinct <;> decide, by decide,
      unbroken_bracketed (unbroken_renderAll hexprs)⟩
  | filter input condition =>
    exact unbroken_append.2 ⟨by decide, hrender condition (by simp [children])⟩
  | join left right type natural matched =>
    change Unbroken ("Join: " ++ type.label natural ++ labelled " " (renderCondition matched))
    simp only [unbroken_append, and_assoc]
    exact ⟨by decide, type.unbroken_label natural,
      unbroken_labelled (by decide) (unbroken_renderCondition htexts hrender)⟩
  | setOp operation all left right =>
    exact unbroken_append.2 ⟨by decide, operation.unbroken_label all⟩
  | aggregate input groupBy =>
    obtain ⟨-, hgroup⟩ := List.forall_mem_cons.1 hrender
    exact unbroken_append.2 ⟨by decide, unbroken_bracketed (unbroken_renderAll hgroup)⟩
  | sort input orderBy offset fetch =>
    simp only [children, List.cons_append, List.forall_mem_cons, List.forall_mem_append,
      Option.mem_toList] at hrender
    obtain ⟨-, ⟨horder, hoffset⟩, hfetch⟩ := hrender
    change Unbroken ("Sort: " ++ bracketed (renderAll orderBy) ++
      labelled " offset=" (renderOption offset) ++ labelled " fetch=" (renderOption fetch))
    simp only [unbroken_append, and_assoc]
    exact ⟨by decide, unbroken_bracketed (unbroken_renderAll horder),
      unbroken_labelled (by decide) (unbroken_renderOption hoffset),
      unbroken_labelled (by decide) (unbroken_renderOption hfetch)⟩
  | modify operation target columns source expressions condition =>
    simp only [children, List.cons_append, List.forall_mem_cons, List.forall_mem_append,
      Option.mem_toList] at hrender
    obtain ⟨htarget, ⟨⟨hcolumns, -⟩, hexpressions⟩, hcondition⟩ := hrender
    change Unbroken ("TableModify: " ++ operation.name ++ " " ++ target.render ++
      labelledList " columns=" (renderAll columns) ++
      labelledList " set=" (renderAll expressions) ++ labelled " where=" (renderOption condition))
    simp only [unbroken_append, and_assoc]
    exact ⟨by decide, operation.unbroken_name, by decide, htarget,
      unbroken_labelledList (by decide) (unbroken_renderAll hcolumns),
      unbroken_labelledList (by decide) (unbroken_renderAll hexpressions),
      unbroken_labelled (by decide) (unbroken_renderOption hcondition)⟩
  | call op operands distinct span =>
    change Unbroken (if operands.any isRelational then
      op.name ++ ":" ++ labelled " " (call op operands distinct span).aliasName?
      else (call op operands distinct span).render)
    split
    · simp only [unbroken_append, and_assoc]
      exact ⟨htexts op.name (List.mem_singleton_self _), by decide,
        unbroken_labelled (by decide) (unbroken_aliasName h)⟩
    · exact unbroken_render _ h
  | values | identifier | literal | parameter | list => exact unbroken_render _ h

/-! ## The spine -/

/-- The nodes whose lines stand below the line of a node, in their order. -/
def spineChildren : Plan → List Plan
  | project input _ _ | filter input _ | aggregate input _ | sort input _ _ _ => [input]
  | join left right _ _ _ | setOp _ _ left right => [left, right]
  | modify _ _ _ source _ _ => source.toList
  | call _ operands _ _ => operands.filter isRelational
  | scan .. | values .. | identifier .. | literal .. | parameter .. | list .. => []

/-- The nodes that get a line below a node are among its children. -/
theorem mem_children_of_spineChildren {p c : Plan} (h : c ∈ p.spineChildren) :
    c ∈ p.children := by
  cases p with
  | join left right type natural matched =>
    cases matched <;> simp only [spineChildren, children, List.mem_cons] at h ⊢ <;> tauto
  | call op operands distinct span => exact List.mem_of_mem_filter h
  | _ => simp_all [spineChildren, children]

/-- The nodes that get a line, in pre-order, each with its depth. -/
def spine (depth : Nat) (p : Plan) : List (Nat × Plan) :=
  (depth, p) :: p.spineChildren.attach.flatMap fun ⟨c, _⟩ => c.spine (depth + 1)
termination_by p.walk.length
decreasing_by exact length_walk_lt (mem_children_of_spineChildren ‹_›)

/-- The spine of a plan is its root, followed by the spines of the children that get a line, one
step deeper. -/
theorem spine_eq (depth : Nat) (p : Plan) :
    p.spine depth = (depth, p) :: p.spineChildren.flatMap (spine (depth + 1)) := by
  rw [spine, List.flatMap_subtype (g := spine (depth + 1)) (fun c hc => rfl), List.unattach_attach]

/-- What is on the spine of a plan on one line is on one line. -/
theorem oneLine_of_mem_spine (p : Plan) (h : p.OneLine) :
    ∀ depth, ∀ e ∈ p.spine depth, e.2.OneLine := by
  induction p using induction_children with
  | h p ih =>
    intro depth e he
    rw [spine_eq, List.mem_cons, List.mem_flatMap] at he
    rcases he with rfl | ⟨c, hc, he⟩
    · exact h
    · have hchild := mem_children_of_spineChildren hc
      exact ih c hchild (((oneLine_iff p).1 h).2 c hchild) _ e he

/-! ## The lines -/

/-- A line of the outline without its line break: the margin and the label. -/
def row (e : Nat × Plan) : List Char := List.replicate (2 * e.1) ' ' ++ e.2.label.toList

/-- A line is its row and a line break. -/
theorem toList_line (depth : Nat) (p : Plan) :
    (line depth p.label).toList = row (depth, p) ++ ['\n'] := by
  simp [line, row]

theorem toList_relationsAt (depth : Nat) : ∀ plans : List Plan,
    (relationsAt depth plans).toList =
      (plans.filter isRelational).flatMap fun c => (c.indentedAt depth).toList
  | [] => rfl
  | p :: plans => by
    rw [relationsAt, String.toList_append, toList_relationsAt depth plans, List.filter_cons]
    split <;> simp

/-- The lines at a node are its own line and then the lines of its children on the spine. -/
theorem toList_indentedAt_node (depth : Nat) (p : Plan) :
    (p.indentedAt depth).toList =
      row (depth, p) ++ '\n' ::
        p.spineChildren.flatMap fun c => (c.indentedAt (depth + 1)).toList := by
  cases p with
  | modify _ _ _ source =>
    cases source <;> simp [indentedAt, toList_line, spineChildren]
  | call op operands => simp [indentedAt, toList_line, toList_relationsAt, spineChildren]
  | _ => simp [indentedAt, toList_line, spineChildren]

/-- Every outline is the lines along the spine, one after the other. -/
theorem toList_indentedAt (p : Plan) : ∀ depth,
    (p.indentedAt depth).toList = (p.spine depth).flatMap fun e => row e ++ ['\n'] := by
  induction p using induction_children with
  | h p ih =>
    intro depth
    rw [toList_indentedAt_node, spine_eq, List.flatMap_cons, List.flatMap_assoc, List.append_assoc,
      List.singleton_append]
    congr 2
    exact List.flatMap_congr fun c hc => ih c (mem_children_of_spineChildren hc) _

/-- Rows with a line break after each are joined by line breaks, with nothing after the last. -/
theorem flatMap_eq_intercalate (entries : List (Nat × Plan)) :
    (entries.flatMap fun e => row e ++ ['\n']) = ['\n'].intercalate (entries.map row ++ [[]]) := by
  induction entries with
  | nil => rfl
  | cons e entries ih =>
    rw [List.flatMap_cons, ih]
    cases entries <;> simp [List.intercalate]

theorem not_mem_row {p : Plan} (h : p.OneLine) {depth : Nat} {e : Nat × Plan}
    (he : e ∈ p.spine depth) : '\n' ∉ row e := by
  rw [row, List.mem_append, not_or]
  exact ⟨fun hmem => absurd (List.eq_of_mem_replicate hmem) (by decide),
    unbroken_label e.2 (oneLine_of_mem_spine p h depth e he)⟩

/-- The outline of a one-line plan ends in a line break, and split at its line breaks it gives
the nodes of the spine in pre-order: one line for each, which is the label of the node behind
two spaces for each step of its depth, and nothing after the last line break. -/
theorem indented_lines (p : Plan) (h : p.OneLine) :
    p.indented.toList.getLast? = some '\n' ∧
      p.indented.toList.splitOn '\n' =
        ((p.spine 0).map fun e => List.replicate (2 * e.1) ' ' ++ e.2.label.toList) ++ [[]] := by
  have htext : p.indented.toList = (p.spine 0).flatMap fun e => row e ++ ['\n'] :=
    toList_indentedAt p 0
  constructor
  · obtain ⟨entries, e, he⟩ : ∃ entries e, p.spine 0 = entries ++ [e] :=
      (List.eq_nil_or_concat' (p.spine 0)).resolve_left (by simp [spine_eq])
    simp [htext, he]
  · have hrows : ∀ r ∈ (p.spine 0).map row ++ [[]], '\n' ∉ r := by
      simp only [List.forall_mem_append, List.forall_mem_map, List.forall_mem_singleton]
      exact ⟨fun e he => not_mem_row h he, List.not_mem_nil⟩
    rw [htext, flatMap_eq_intercalate, List.splitOn_intercalate _ hrows (by simp)]
    rfl

/-- A derived table and a table side by side, line by line. -/
theorem indented_lines_join :
    let derived := project (scan ["u"] .zero) [named "a"] true
    let p := join (aliased derived (some "x") .zero) (scan ["s", "t"] .zero) .inner false .none
    p.OneLine ∧ p.indented.toList.getLast? = some '\n' ∧
      p.indented.toList.splitOn '\n' =
        ["Join: INNER", "  AS: x", "    Project: distinct [a]", "      Scan: u", "  Scan: s.t",
          ""].map String.toList := by
  intro derived p
  have h : p.OneLine := by decide
  obtain ⟨hlast, hlines⟩ := indented_lines p h
  refine ⟨h, hlast, hlines.trans ?_⟩
  simp only [p, derived, aliased, named, spine_eq, spineChildren, List.flatMap_cons,
    List.flatMap_nil, List.filter, isRelational, Option.toList, List.map]
  rfl

end Plan

end SqlAlgebra
