import SqlAlgebra.Conversion.Engine
import SqlAlgebra.Proofs.NormalForm

/-!
# Running conversions

`ConvertM.outcome` runs a conversion from a state and gives its result, a value or a failure,
with the state after it. This module says what each way of building a conversion does to the
outcome, so that no later proof looks inside the monad. A failure in `m` ends `m >>= f`
(`outcome_bind`), and the two brackets `inScope` and `entering` clean up after a failure as
they do after a value (`outcome_inScope`, `outcome_entering`).

`ConvertM.Ends m P` says that from every state the result of `m` satisfies `P`.
`Compiler.outcome_convertWithin_succ` takes one level off a conversion: what is left is the
conversion of a segment that has been entered.
-/

namespace SqlAlgebra

namespace ConvertM

variable {α β : Type}

/-! ## Outcomes -/

/-- What follows `m` runs on the value and the state of `m`, and not at all after a failure. -/
theorem outcome_bind (m : ConvertM α) (f : α → ConvertM β) (s : Session) :
    (m >>= f).outcome s = match m.outcome s with
      | (.ok a, t) => (f a).outcome t
      | (.error e, t) => (.error e, t) := by
  change outcome (EStateM.bind m f) s = _
  unfold outcome EStateM.bind
  cases m s <;> rfl

theorem outcome_bind_of_ok {m : ConvertM α} {f : α → ConvertM β} {s t : Session} {a : α}
    (h : m.outcome s = (.ok a, t)) : (m >>= f).outcome s = (f a).outcome t := by
  rw [outcome_bind, h]

theorem outcome_bind_of_error {m : ConvertM α} {f : α → ConvertM β} {s t : Session}
    {e : ConvertError} (h : m.outcome s = (.error e, t)) :
    (m >>= f).outcome s = (.error e, t) := by
  rw [outcome_bind, h]

/-- A value of `m >>= f` comes from a value of `m`. -/
theorem outcome_bind_eq_ok {m : ConvertM α} {f : α → ConvertM β} {s t : Session} {b : β}
    (h : (m >>= f).outcome s = (.ok b, t)) :
    ∃ a u, m.outcome s = (.ok a, u) ∧ (f a).outcome u = (.ok b, t) := by
  rw [outcome_bind] at h
  rcases hr : m.outcome s with ⟨e | a, u⟩ <;> rw [hr] at h
  · cases h
  · exact ⟨a, u, rfl, h⟩

/-- A value that is there already is given back without a change of state. -/
theorem outcome_pure_eq_ok {a b : α} {s t : Session}
    (h : outcome (pure a : ConvertM α) s = (.ok b, t)) : b = a ∧ t = s := by
  cases h
  exact ⟨rfl, rfl⟩

theorem outcome_map_eq_ok {f : α → β} {m : ConvertM α} {s t : Session} {b : β}
    (h : (f <$> m).outcome s = (.ok b, t)) : ∃ a, m.outcome s = (.ok a, t) ∧ b = f a := by
  rw [map_eq_pure_bind] at h
  obtain ⟨a, u, ha, h⟩ := outcome_bind_eq_ok h
  obtain ⟨rfl, rfl⟩ := outcome_pure_eq_ok h
  exact ⟨a, ha, rfl⟩

@[simp] theorem outcome_context (s : Session) : context.outcome s = (.ok s.context, s) :=
  rfl

/-- What is done at the end is done after a failure as well. -/
theorem outcome_finishing (m : ConvertM α) (after : Session → Session) (s : Session) :
    (finishing m after).outcome s = ((m.outcome s).1, after (m.outcome s).2) := by
  simp only [finishing, outcome]
  cases m s <;> rfl

/-- A scope of its own is open while `m` runs, and closed again whatever comes of it. -/
theorem outcome_inScope (m : ConvertM α) (s : Session) :
    (inScope m).outcome s = ((m.outcome s.pushScope).1,
      (m.outcome s.pushScope).2.rollback s.context.height) :=
  outcome_finishing m (Session.rollback s.context.height) s.pushScope

/-- While `m` runs, the context is that of the segment, which is left again in the end. -/
theorem outcome_entering (kind : SegmentKind) (m : ConvertM α) (s : Session) :
    (entering kind m).outcome s = ((m.outcome (s.modifyContext (.enter kind))).1,
      (m.outcome (s.modifyContext (.enter kind))).2.modifyContext .leave) :=
  outcome_finishing m (Session.modifyContext .leave) (s.modifyContext (.enter kind))

/-! ## Results from every state -/

/-- From every state, the result of `m` satisfies `P`. -/
def Ends (m : ConvertM α) (P : Except ConvertError α → Prop) : Prop :=
  ∀ s, P (m.outcome s).1

namespace Ends

variable {P Q : Except ConvertError α → Prop} {m : ConvertM α}

/-- A result that satisfies `P` satisfies what follows from `P`. -/
theorem mono (h : Ends m P) (hPQ : ∀ o, P o → Q o) : Ends m Q := fun s => hPQ _ (h s)

/-- What `m` ends with decides what the whole ends with: a value goes on, a failure is the
result. -/
theorem bind {R : Except ConvertError β → Prop} {f : α → ConvertM β} (h : Ends m P)
    (hok : ∀ a, P (.ok a) → Ends (f a) R) (herror : ∀ e, P (.error e) → R (.error e)) :
    Ends (m >>= f) R := by
  intro s
  have hm := h s
  rw [outcome_bind]
  rcases hr : m.outcome s with ⟨e | a, t⟩ <;> rw [hr] at hm
  · exact herror e hm
  · exact hok a hm t

theorem inScope (h : Ends m P) : Ends (ConvertM.inScope m) P := fun s => by
  rw [outcome_inScope]
  exact h s.pushScope

theorem entering {kind : SegmentKind} (h : Ends m P) :
    Ends (ConvertM.entering kind m) P := fun s => by
  rw [outcome_entering]
  exact h _

end Ends

end ConvertM

namespace Session

@[simp] theorem context_modifyContext (f : Context → Context) (s : Session) :
    (s.modifyContext f).context = f s.context :=
  rfl

@[simp] theorem context_pushScope (s : Session) : s.pushScope.context = s.context.pushScope :=
  rfl

/-- Closing the scopes above a mark is, for the context, dropping them. -/
theorem context_rollback {mark : Nat} {s : Session} (h : mark < s.context.height) :
    (s.rollback mark).context = s.context.dropScopes mark := by
  rw [rollback, if_pos h]
  rfl

end Session

/-! ## Steps that look at the context -/

open Conversion ConvertM

/-- A plan under an alias, if there is one. -/
def Plan.titled (plan : Plan) (name : Option String) (span : Span) : Plan :=
  match name with
  | some name => .aliased plan (some name) span
  | none => plan

/-- The state after the owner of a column has been looked up. -/
def Session.lookedUp (owner column : String) (s : Session) : Session :=
  let depth := s.context.qualifierDepth? owner
  let s := s.record (.ownerLookedUp owner column depth)
  match depth with
  | none | some 0 => s
  | some (n + 1) => s.record (.columnCorrelated owner column (n + 1))

/-- Looking up an owner always succeeds. -/
theorem outcome_lookUp (owner column : String) (s : Session) :
    (lookUp owner column).outcome s = (.ok (), s.lookedUp owner column) := by
  unfold lookUp Session.lookedUp
  rw [outcome_bind_of_ok (outcome_context s)]
  dsimp only
  split <;> rename_i h <;> rw [h] <;> rfl

@[simp] theorem Session.context_lookedUp (owner column : String) (s : Session) :
    (s.lookedUp owner column).context = s.context := by
  unfold lookedUp
  dsimp only
  split <;> rfl

/-- The state after a column. -/
def Session.seen (c : Column) (s : Session) : Session :=
  match c.owner with
  | none => s
  | some owner => s.lookedUp owner c.name

/-- A column is always converted, to its qualified name. -/
theorem outcome_column (c : Column) (s : Session) :
    (column c).outcome s = (.ok (.identifier c.qualifiedName c.span), s.seen c) := by
  unfold column Session.seen
  cases c.owner with
  | none => rfl
  | some owner => exact outcome_bind_of_ok (outcome_lookUp owner c.name s)

@[simp] theorem Session.context_seen (c : Column) (s : Session) :
    (s.seen c).context = s.context := by
  unfold seen
  cases c.owner with
  | none => rfl
  | some owner => exact context_lookedUp owner c.name s

theorem result_column (c : Column) (s : Session) :
    ((column c).outcome s).1 = .ok (.identifier c.qualifiedName c.span) := by
  rw [outcome_column]

/-- An item without an alias is named after its position, if names are derived. -/
theorem result_named (settings : CompilerSettings) (kind : SegmentKind)
    (aliasName : Option String) (span : Span) (plan : Plan) (s : Session) :
    ((named settings kind aliasName span plan).outcome s).1 =
      .ok (plan.titled (aliasName.or (s.context.derivedAlias? settings)) span) := by
  unfold named
  cases aliasName with
  | some name => rfl
  | none =>
    dsimp only
    rw [outcome_bind_of_ok (outcome_context s), Option.none_or]
    split <;> rename_i h <;> rw [h] <;> rfl

theorem result_refuse (s : Segment) (t : Session) :
    ((refuse s).outcome t).1 = .error (.unsupportedSegment s.kind s.span t.context.path) :=
  rfl

/-- A derived name depends on the position in the select list and on nothing else in the context. -/
theorem Context.derivedAlias?_congr (settings : CompilerSettings) {c₁ c₂ : Context}
    (h : c₁.ordinal = c₂.ordinal) : c₁.derivedAlias? settings = c₂.derivedAlias? settings := by
  rw [derivedAlias?, derivedAlias?, h]

/-! ## One level of a conversion -/

/-- The state in which a segment is converted. -/
def Session.inside (x : Segment) (s : Session) : Session :=
  let inside := s.context.enter x.kind
  (s.record (entered x inside.depth inside.path)).modifyContext (.enter x.kind)

/-- With a level to spare, a segment is entered, converted with one level less for what is inside
it, and left again. -/
theorem Compiler.outcome_convertWithin_succ (c : Compiler) (levels : Nat) (x : Segment)
    (s : Session) :
    (c.convertWithin (levels + 1) x).outcome s =
      (((c.convertEntered (c.convertWithin levels) x).outcome (s.inside x)).1,
        ((c.convertEntered (c.convertWithin levels) x).outcome (s.inside x)).2.modifyContext
          .leave) :=
  outcome_entering x.kind (c.convertEntered (c.convertWithin levels) x)
    (s.record (entered x (s.context.enter x.kind).depth (s.context.enter x.kind).path))

end SqlAlgebra
