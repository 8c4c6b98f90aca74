import SqlAlgebra.Proofs.Saturation

/-!
# Numbers of operands and arguments

The operator table decides which operators rules meet, and no operator is ever called with a
number of operands that it does not accept. A function or aggregate call with a wrong number of
arguments is reported as malformed (`Registry.Miscounts`) before anything else is looked at, so
such a segment decides the result of every run that comes to it (`Heeds`). What is left are
binary operations, and only for these a run fails at the call itself.
`Compiler.tryConvert_arity` says so for every operator table and every registry.
-/

namespace SqlAlgebra

open Conversion ConvertM

/-! ## Wrong numbers of arguments -/

/-- An aggregate call has a wrong number of arguments, and what is wrong with it. COUNT may be
called without arguments. -/
inductive Aggregation.Miscounted (a : Aggregation) : Defect → Prop
  | missing (hnone : a.arguments = []) (hfunction : a.function ≠ .count) :
    Miscounted a (.missingArgument (aggregateOperator a.function))
  | arguments (hsome : a.arguments ≠ [])
      (harity : ¬(aggregateOperator a.function).arity.accepts a.arguments.length) :
    Miscounted a (.argumentCount (aggregateOperator a.function) a.arguments.length)

/-- A segment is converted by the rule for function calls or by one of the two for aggregate
calls, and it has a wrong number of arguments, for which it is to be reported as malformed. -/
inductive Registry.Miscounts (r : Registry) : Segment → ConvertError → Prop
  | function {name : String} {arguments : List Expr} {span : Span}
      (hrule : r.expressions.handler .function = .rule .function)
      (harity : ¬(r.operators.resolveFunction name).arity.accepts arguments.length) :
    Miscounts r (.expression (.function name arguments span))
      (.malformedSegment .function
        (.argumentCount (r.operators.resolveFunction name) arguments.length) span)
  | aggregation {a : Aggregation} {defect : Defect}
      (hrule : r.expressions.handler .aggregation = .rule .aggregation)
      (hcount : a.Miscounted defect) :
    Miscounts r (.expression (.aggregation a)) (.malformedSegment .aggregation defect a.span)
  | aggregationItem {a : Aggregation} {aliasName : Option String} {span : Span} {defect : Defect}
      (hrule : r.projections.handler .aggregationProjection = .rule .aggregation)
      (hcount : a.Miscounted defect) :
    Miscounts r (.projection (.aggregation a aliasName span))
      (.malformedSegment .aggregation defect a.span)

variable {α β : Type} {go : Descent} {r : Registry}

/-- A function call with a wrong number of arguments fails before any of them is converted. -/
theorem result_function {name : String} {arguments : List Expr}
    (harity : ¬(r.operators.resolveFunction name).arity.accepts arguments.length) (span : Span)
    (s : Session) :
    ((function r.operators go name arguments span).outcome s).1 =
      .error (.malformedSegment .function
        (.argumentCount (r.operators.resolveFunction name) arguments.length) span) := by
  unfold function
  dsimp only
  simp only [if_neg harity]
  split <;> rfl

theorem result_aggregation {a : Aggregation} {defect : Defect} (h : a.Miscounted defect)
    (s : Session) :
    ((aggregation go a).outcome s).1 = .error (.malformedSegment .aggregation defect a.span) := by
  have hoperands : aggregateOperands go a =
      throw (.malformedSegment .aggregation defect a.span) := by
    unfold aggregateOperands
    dsimp only
    cases h with
    | missing hnone hfunction =>
      have hop : aggregateOperator a.function ≠ .count := by
        cases hname : a.function <;> simp_all [aggregateOperator]
      rw [if_pos (List.isEmpty_iff.2 hnone), if_neg hop]
    | arguments hsome harity =>
      rw [if_neg (mt List.isEmpty_iff.1 hsome), if_neg harity]
  unfold aggregation
  rw [hoperands]
  rfl

/-- The check comes first, so nothing else is reported. -/
theorem Compiler.result_convertEntered (c : Compiler) {x : Segment} {e : ConvertError}
    (h : c.registry.Miscounts x e) (s : Session) :
    ((c.convertEntered go x).outcome s).1 = .error e := by
  unfold convertEntered
  cases h with
  | function hrule harity =>
    dsimp only [Expr.kind]
    rw [hrule]
    exact result_function harity _ s
  | aggregation hrule hcount =>
    dsimp only [Expr.kind]
    rw [hrule]
    exact result_aggregation hcount s
  | aggregationItem hrule hcount =>
    dsimp only [Projection.kind]
    rw [hrule]
    exact congrArg Prod.fst
      (outcome_bind_of_error (Prod.ext (result_aggregation hcount s) rfl))

/-- Whatever the state, a segment with a wrong number of arguments that `m` enters decides the
result. -/
def Heeds (r : Registry) (m : ConvertM α) : Prop :=
  ∀ s, ∃ news, (m.outcome s).2.entered = s.entered ++ news ∧
    ∀ y ∈ news, ∀ e, r.Miscounts y e → (m.outcome s).1 = .error e

theorem heeds_of_entered_eq {m : ConvertM α} (h : ∀ s, (m.outcome s).2.entered = s.entered) :
    Heeds r m :=
  fun s => ⟨[], (h s).trans (List.append_nil _).symm, List.forall_mem_nil _⟩

/-- A plain step enters no segment that would have to be heeded. -/
theorem heeds_of_plain {m : ConvertM α} (h : Plain m) : Heeds r m :=
  heeds_of_entered_eq fun s => (h.remarks s).entered_eq

/-- A sequence heeds what either of its steps enters. -/
theorem heeds_bind {m : ConvertM α} {f : α → ConvertM β} (hm : Heeds r m)
    (hf : ∀ a, Heeds r (f a)) : Heeds r (m >>= f) := by
  intro s
  obtain ⟨news, hnews, hfirst⟩ := hm s
  rcases hr : m.outcome s with ⟨e | a, t⟩ <;> rw [hr] at hnews hfirst
  · rw [outcome_bind_of_error hr]
    refine ⟨news, hnews, fun y hy error herror => ?_⟩
    exact congrArg Except.error (Except.error.inj (hfirst y hy error herror))
  · rw [outcome_bind_of_ok hr]
    obtain ⟨news', hnews', hsecond⟩ := hf a t
    refine ⟨news ++ news', by rw [hnews', hnews, List.append_assoc], fun y hy e he => ?_⟩
    rcases List.mem_append.1 hy with hy | hy
    · cases hfirst y hy e he
    · exact hsecond y hy e he

theorem heeds_inScope {m : ConvertM α} (hm : Heeds r m) : Heeds r (inScope m) := by
  intro s
  obtain ⟨news, hnews, hresult⟩ := hm s.pushScope
  rw [outcome_inScope]
  exact ⟨news, by rw [Session.entered_rollback, hnews, Session.entered_pushScope], hresult⟩

/-- A program heeds what it enters if its descent does. -/
theorem Program.heeds {effect : Effect} {F : Descent → ConvertM α} (h : Program effect F)
    {go : Descent} (hgo : ∀ x, Heeds r (go x)) : Heeds r (F go) :=
  h.byParts (motive := fun F => Heeds r (F go)) heeds_of_plain hgo
    (fun _ => heeds_inScope) fun _ => heeds_bind

/-! ## Conversions -/

theorem Session.entered_inside (x : Segment) (s : Session) :
    (s.inside x).entered = s.entered ++ [x] :=
  s.entered_record_entered x _ _

namespace Compiler

variable (c : Compiler)

/-- A segment that has been entered heeds what is entered inside it. -/
theorem heeds_convertEntered (hgo : ∀ x, Heeds c.registry (go x)) (x : Segment) :
    Heeds c.registry (c.convertEntered go x) := by
  rcases convertEntered_cases c x with ⟨-, hrefused⟩ | hprogram
  · rw [hrefused]
    exact heeds_of_entered_eq fun s => (s.entered_record _).trans (List.append_nil _)
  · exact hprogram.heeds hgo

/-- With any number of levels, a conversion heeds what it enters. -/
theorem heeds_convertWithin : ∀ (levels : Nat) (x : Segment),
    Heeds c.registry (c.convertWithin levels x)
  | 0, _ => heeds_of_plain (plain_fail fun _ => rfl)
  | levels + 1, x => by
    intro s
    obtain ⟨news, hnews, hresult⟩ :=
      c.heeds_convertEntered (heeds_convertWithin levels) x (s.inside x)
    rw [Session.entered_inside, List.append_assoc] at hnews
    rw [outcome_convertWithin_succ]
    refine ⟨x :: news, hnews, List.forall_mem_cons.2 ⟨fun e he => ?_, hresult⟩⟩
    exact c.result_convertEntered he (s.inside x)

/-- Whatever the registry says, plans are saturated, and binary operations are to blame for
wrong numbers of operands. -/
theorem sound_convertWithin : ∀ levels : Nat,
    Sound c.registry.operators (c.convertWithin levels)
  | 0 => fun _ => builds_throw rfl
  | levels + 1 => by
    intro x s
    have hbuilds := c.builds_convertEntered (sound_convertWithin levels) x (s.inside x)
    obtain ⟨news, hnews, -⟩ :=
      c.heeds_convertEntered (c.heeds_convertWithin levels) x (s.inside x)
    rw [Session.entered_inside] at hnews
    rw [outcome_convertWithin_succ]
    refine ⟨hbuilds.value, fun error herror => .inr ?_⟩
    rcases hbuilds.blame error herror with hown | hblame
    · exact ⟨x, hnews ▸ List.mem_append_left _ (by simp), hown⟩
    · exact hblame

/-- Arities hold, whatever the settings, the registry and its operators. Every call of a plan
has as many operands as its operator accepts. A run fails for a wrong number of operands only if
it comes to a binary operation whose text the table maps to an operator that does not take two.
A function or aggregate call with a wrong number of arguments that a run comes to is what the
run is refused for. -/
theorem tryConvert_arity (st : Statement) :
    (∀ plan, c.tryConvert st = .ok (some plan) → plan.Saturated) ∧
    (∀ error, c.tryConvert st = .error (.invalidArity error) →
      ∃ y ∈ (c.run st {}).2.entered, y.Misuses c.registry.operators error) ∧
    ∀ y ∈ (c.run st {}).2.entered, ∀ e, c.registry.Miscounts y e → c.tryConvert st = .error e := by
  have hsound := c.sound_convertWithin (c.levelsLeft {}) (.statement st) {}
  obtain ⟨news, hnews, hresult⟩ := c.heeds_convertWithin (c.levelsLeft {}) (.statement st) {}
  refine ⟨fun plan h => hsound.value (some plan) h plan rfl,
    fun error h => (hsound.blame error h).resolve_left id, fun y hy e he => hresult y ?_ e he⟩
  have hentered : (c.run st {}).2.entered = news := hnews
  rwa [hentered] at hy

/-- A compiler with a binary operator and a function that both stand for BETWEEN. -/
def unsuited : Compiler where
  registry := { Registry.standard with
    operators := (OperatorTable.empty.withBinary "~" (.core .between)).withFunction "f"
      (.core .between) }

/-- `DELETE FROM t WHERE ? ~ ?`. -/
def deleteTilde : Statement :=
  .delete ⟨.simple { name := "t" },
    some ⟨.binary (.parameter 0 .zero) " ~" (.parameter 1 .zero) .zero, .zero⟩, none, none, .zero⟩

/-- `DELETE FROM t WHERE F(…)`. -/
def deleteCall (arguments : List Expr) : Statement :=
  .delete ⟨.simple { name := "t" }, some ⟨.function "F" arguments .zero, .zero⟩, none, none, .zero⟩

/-- BETWEEN takes three operands. The binary operation has two and is to blame, a call of the
function with two is refused, and the plan of a call with three is saturated. -/
theorem tryConvert_arity_unsuited :
    let two := deleteCall [.parameter 0 .zero, .parameter 1 .zero]
    let three := deleteCall [.parameter 0 .zero, .parameter 1 .zero, .parameter 2 .zero]
    (∃ plan, unsuited.tryConvert three = .ok (some plan) ∧ plan.Saturated) ∧
    (unsuited.tryConvert deleteTilde = .error (.invalidArity ⟨.core .between, 2⟩) ∧
      ∃ y ∈ (unsuited.run deleteTilde {}).2.entered,
        y.Misuses unsuited.registry.operators ⟨.core .between, 2⟩) ∧
    unsuited.tryConvert two =
      .error (.malformedSegment .function (.argumentCount (.core .between) 2) .zero) := by
  intro two three
  have htilde : unsuited.tryConvert deleteTilde = .error (.invalidArity ⟨.core .between, 2⟩) := by
    rfl
  have hcount : unsuited.registry.Miscounts
      (.expression (.function "F" [.parameter 0 .zero, .parameter 1 .zero] .zero))
      (.malformedSegment .function (.argumentCount (.core .between) 2) .zero) :=
    .function rfl (by decide)
  have hentered : (unsuited.run two {}).2.entered = [.statement two,
      .table (.simple { name := "t" }),
      .expression (.function "F" [.parameter 0 .zero, .parameter 1 .zero] .zero)] := by
    rfl
  refine ⟨⟨_, rfl, (tryConvert_arity unsuited three).1 _ rfl⟩,
    ⟨htilde, (tryConvert_arity unsuited deleteTilde).2.1 _ htilde⟩, ?_⟩
  refine (tryConvert_arity unsuited two).2.2 _ ?_ _ hcount
  rw [hentered]
  simp

end Compiler

end SqlAlgebra
