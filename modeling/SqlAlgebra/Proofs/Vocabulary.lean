import SqlAlgebra.Proofs.Reference

/-!
# Operators known by their names

Whoever reads a plan sees the name of an operator, not the operator, and takes it for the
operator that the name denotes (`Operator.ofName`). For the operators of the vocabulary the
two are the same (`Operator.ofName_name`). A function without a fixed meaning is what its name
denotes only if the name is not taken (`Operator.ofName_eq_function_iff`).

The vocabulary has more names than the table of functions has entries, and a function name
without an entry is kept as it is. So a statement can call a function by a name that denotes
something else. `Compiler.tryConvert_ofName_iff` says that this is the only way in which a
plan can come to hold an operator that its name does not denote; `SELECT MOD(7, 3)` does it.
-/

namespace SqlAlgebra

/-! ## Names and what they denote -/

namespace Operator

/-- The names of the vocabulary. -/
def names : List String :=
  vocabulary.map name

/-- The operators of the vocabulary are denoted by their names. -/
theorem ofName_name : ∀ op ∈ vocabulary, ofName op.name = op := by
  decide +kernel

/-- An operator that refers to nothing is in the vocabulary. -/
theorem mem_vocabulary_of_reference? {op : Operator} (h : op.reference? = none) :
    op ∈ vocabulary := by
  cases op with
  | core op => exact List.mem_append_left _ (List.mem_map_of_mem (by cases op <;> decide))
  | builtin f => exact List.mem_append_right _ (List.mem_map_of_mem (by cases f <;> decide))
  | function name => cases h

/-- What is in the vocabulary refers to nothing. -/
theorem reference?_of_mem_vocabulary : ∀ op ∈ vocabulary, op.reference? = none := by
  decide

/-- A function is denoted by its name exactly if the name is not taken. -/
theorem ofName_eq_function_iff (name : String) :
    ofName name = .function name ↔ name ∉ names := by
  unfold ofName
  cases hfind : vocabulary.find? fun op => op.name == name with
  | none =>
    refine iff_of_true rfl fun hname => ?_
    obtain ⟨op, hop, rfl⟩ := List.mem_map.1 hname
    exact List.find?_eq_none.1 hfind op hop (beq_self_eq_true _)
  | some op =>
    have hop := List.mem_of_find?_eq_some hfind
    have hname : op.name = name := by
      have hbeq := List.find?_some hfind
      exact eq_of_beq hbeq
    refine iff_of_false (fun h => ?_) fun h => h (List.mem_map.2 ⟨op, hop, hname⟩)
    have hnone := reference?_of_mem_vocabulary op hop
    rw [show op = .function name from h] at hnone
    cases hnone

end Operator

/-! ## Operators of plans -/

/-- The operator of a call. -/
def Plan.operator? : Plan → Option Operator
  | call op _ _ _ => some op
  | _ => none

/-- The operators of the calls of a plan, in the order of its nodes. -/
def Plan.operators (plan : Plan) : List Operator :=
  plan.walk.filterMap operator?

/-- The function that is referred to. -/
def Reference.function? : Reference → Option String
  | .function name => some name
  | .table _ | .parameter _ => none

/-- The functions without a fixed meaning that a statement calls, where its plan has them. -/
def Statement.functions (st : Statement) : List String :=
  (st.references false).filterMap Reference.function?

theorem Plan.reference?_eq_function_iff (plan : Plan) (name : String) :
    plan.reference? = some (.function name) ↔ plan.operator? = some (.function name) := by
  cases plan with
  | call op operands distinct span =>
    cases op <;> simp [reference?, operator?, Operator.reference?]
  | _ => simp [reference?, operator?]

/-- A function without a fixed meaning is an operator of a plan exactly if the plan refers to it. -/
theorem Plan.mem_operators_function_iff (plan : Plan) (name : String) :
    .function name ∈ plan.operators ↔ .function name ∈ plan.references := by
  simp only [operators, references, List.mem_filterMap, reference?_eq_function_iff]

/-- A function is called in a statement exactly if the statement refers to it. -/
theorem Statement.mem_functions_iff (st : Statement) (name : String) :
    name ∈ st.functions ↔ .function name ∈ st.references false := by
  rw [functions, List.mem_filterMap]
  constructor
  · rintro ⟨r, hr, hname⟩
    cases r with
    | function _ =>
      obtain rfl := Option.some.inj hname
      exact hr
    | table _ => cases hname
    | parameter _ => cases hname
  · exact fun h => ⟨_, h, rfl⟩

/-! ## Conversions -/

namespace Compiler

variable (settings : CompilerSettings)

/-- The functions among the operators of a plan are those that the statement leaves open. -/
theorem tryConvert_mem_operators_iff {st : Statement} {plan : Plan}
    (h : (⟨settings, .standard⟩ : Compiler).tryConvert st = .ok (some plan)) (name : String) :
    .function name ∈ plan.operators ↔ name ∈ st.functions := by
  rw [plan.mem_operators_function_iff, tryConvert_references settings h, st.mem_functions_iff]

/-- Every operator of a plan is the one that its name denotes, exactly if no function that the
statement leaves open has a name of the vocabulary. -/
theorem tryConvert_ofName_iff {st : Statement} {plan : Plan}
    (h : (⟨settings, .standard⟩ : Compiler).tryConvert st = .ok (some plan)) :
    (∀ op ∈ plan.operators, Operator.ofName op.name = op) ↔
      ∀ name ∈ st.functions, name ∉ Operator.names := by
  constructor
  · intro hops name hname
    rw [← Operator.ofName_eq_function_iff]
    exact hops (.function name) ((tryConvert_mem_operators_iff settings h name).2 hname)
  · intro hnames op hop
    cases hopen : op.reference? with
    | none => exact Operator.ofName_name op (Operator.mem_vocabulary_of_reference? hopen)
    | some r =>
      cases op with
      | function name =>
        have hname := (tryConvert_mem_operators_iff settings h name).1 hop
        exact (Operator.ofName_eq_function_iff name).2 (hnames name hname)
      | core _ => cases hopen
      | builtin _ => cases hopen

/-- `SELECT name(?, ?)`. -/
def functionCall (name : String) : Statement :=
  .select ⟨some ⟨false, [.expression (.function name [.parameter 0 .zero, .parameter 1 .zero]
    .zero) none .zero], .zero⟩, none, none, none, none, none, none, none, .zero⟩

/-- Nothing in the vocabulary is called F, so the operators in the plan of a call of `f` are
what their names denote. -/
theorem tryConvert_ofName_iff_functionCall : ∃ plan,
    ({} : Compiler).tryConvert (functionCall "f") = .ok (some plan) ∧
    ∀ op ∈ plan.operators, Operator.ofName op.name = op :=
  ⟨_, (and_iff_left_of_imp fun h => (tryConvert_ofName_iff {} h).2 (by decide +kernel)).2 rfl⟩

/-- A call of MOD becomes a call of the function of that name, and the name denotes the
operator for remainders. -/
theorem tryConvert_ofName_modulo : ∃ plan,
    ({} : Compiler).tryConvert (functionCall "MOD") = .ok (some plan) ∧
    ¬ ∀ op ∈ plan.operators, Operator.ofName op.name = op := by
  obtain ⟨plan, hplan⟩ : ∃ plan,
      ({} : Compiler).tryConvert (functionCall "MOD") = .ok (some plan) := ⟨_, rfl⟩
  have hmem : .function "MOD" ∈ plan.operators :=
    (tryConvert_mem_operators_iff {} hplan "MOD").2 (by decide +kernel)
  have hdenoted : Operator.ofName "MOD" = .core .modulo := by decide
  refine ⟨plan, hplan, fun hops => ?_⟩
  have hsame : Operator.core .modulo = .function "MOD" := hdenoted.symm.trans (hops _ hmem)
  cases hsame

end Compiler

end SqlAlgebra
