import SqlAlgebra.Proofs.Restoration

/-!
# Conversions do not look around

The result of a conversion depends on the segment, the registry and the settings, and not on
where the conversion starts: the scopes that are open, the names bound in them and the
position in a select list around it never matter, and a deeper or shallower start matters only
through the number of levels that are left. This is a statement about two runs. Where they
refuse a segment, the paths they report differ in the part that leads to the start, and the
rest is the same (`SameUnder`).

`Tracks lenient e m₁ m₂` relates two conversions run from contexts that agree on what a
program with effect `e` may look at (`Effect.Twins`). If `lenient` holds, the first run is
allowed to end for want of levels, and then nothing is said about the second one.
`Program.tracks` lifts the relation from descents to programs, and `tracks_convertWithin` goes
by induction on the levels. The two main results are `convert_sameUnder`, for two contexts,
and `convert_restores`, which adds that converting a segment again gives the same result.
-/

namespace SqlAlgebra

/-! ## Results seen from two paths -/

namespace ConvertError

theorem under_append (p q : List SegmentKind) (e : ConvertError) :
    e.under (p ++ q) = (e.under q).under p := by
  cases e <;> simp [under]

end ConvertError

variable {α β : Type}

/-- The same result, seen from the paths `p₁` and `p₂`. -/
def SameUnder (p₁ p₂ : List SegmentKind) (o₁ o₂ : Except ConvertError α) : Prop :=
  ∃ o : Except ConvertError α, o₁ = o.mapError (·.under p₁) ∧ o₂ = o.mapError (·.under p₂)

namespace SameUnder

variable {p₁ p₂ : List SegmentKind}

theorem ok (a : α) : SameUnder p₁ p₂ (.ok a) (.ok a) := ⟨.ok a, rfl, rfl⟩

theorem error (e : ConvertError) :
    SameUnder p₁ p₂ (.error (e.under p₁) : Except ConvertError α) (.error (e.under p₂)) :=
  ⟨.error e, rfl, rfl⟩

theorem of_append {q : List SegmentKind} {o₁ o₂ : Except ConvertError α}
    (h : SameUnder (p₁ ++ q) (p₂ ++ q) o₁ o₂) : SameUnder p₁ p₂ o₁ o₂ := by
  obtain ⟨e | a, rfl, rfl⟩ := h
  · exact ⟨.error (e.under q), congrArg Except.error (ConvertError.under_append p₁ q e),
      congrArg Except.error (ConvertError.under_append p₂ q e)⟩
  · exact ok a

/-- Under the same path, results that agree are equal. -/
theorem eq {p : List SegmentKind} {o₁ o₂ : Except ConvertError α} (h : SameUnder p p o₁ o₂) :
    o₁ = o₂ := by
  obtain ⟨o, rfl, rfl⟩ := h
  rfl

end SameUnder

/-! ## Two runs -/

/-- Whether two contexts agree on what a program with an effect may look at. -/
def Effect.Twins : Effect → Context → Context → Prop
  | quiet, _, _ => True
  | naming, c₁, c₂ => c₁.ordinal = c₂.ordinal
  | binding, _, _ => True
  | inner, c₁, c₂ => c₁.scopes ≠ [] ∧ c₂.scopes ≠ []

theorem Effect.Twins.mono {e e' : Effect} {c₁ c₂ : Context} (he : e.within e')
    (h : e'.Twins c₁ c₂) : e.Twins c₁ c₂ := by
  cases e with
  | quiet => trivial
  | binding => trivial
  | naming =>
    cases e' with
    | naming => exact h
    | quiet | binding | inner => cases he
  | inner =>
    cases e' with
    | inner => exact h
    | quiet | naming | binding => cases he

namespace Context

theorem path_modifyScope (f : Scope → Scope) (c : Context) : (c.modifyScope f).path = c.path :=
  rfl

theorem path_enter (kind : SegmentKind) (c : Context) : (c.enter kind).path = c.path ++ [kind] :=
  List.reverse_cons

end Context

/-- Contexts that agree still do after changes that the effect allows. -/
theorem Effect.Twins.of_allows {e : Effect} {b₁ b₂ c₁ c₂ : Context} (h : e.Twins b₁ b₂)
    (h₁ : e.Allows b₁ c₁) (h₂ : e.Allows b₂ c₂) : e.Twins c₁ c₂ := by
  cases e with
  | quiet => trivial
  | binding => trivial
  | naming =>
    obtain rfl : c₁ = b₁ := h₁
    obtain rfl : c₂ = b₂ := h₂
    exact h
  | inner =>
    obtain ⟨f, rfl⟩ := h₁
    obtain ⟨g, rfl⟩ := h₂
    exact ⟨Context.scopes_modifyScope_ne_nil h.1, Context.scopes_modifyScope_ne_nil h.2⟩

/-- No effect changes the path. -/
theorem Effect.Allows.path_eq {e : Effect} {b c : Context} (h : e.Allows b c) :
    c.path = b.path := by
  obtain ⟨f, rfl⟩ := h.exists_modifyScope
  exact Context.path_modifyScope f b

open Conversion ConvertM

/-- The same result from two contexts, unless the first run may end for want of levels and
does. -/
def Tracks (lenient : Prop) (e : Effect) (m₁ m₂ : ConvertM α) : Prop :=
  ∀ s₁ s₂, e.Twins s₁.context s₂.context →
    (lenient ∧ ∃ limit, (m₁.outcome s₁).1 = .error (.maxRecursion limit)) ∨
      SameUnder s₁.context.path s₂.context.path (m₁.outcome s₁).1 (m₂.outcome s₂).1

variable {lenient : Prop} {e : Effect}

/-- Two runs of a conversion agree if it has the same value from every state. -/
theorem tracks_of_ok {m : ConvertM α} {a : α} (h : ∀ s, (m.outcome s).1 = .ok a) :
    Tracks lenient e m m := fun s₁ s₂ _ => .inr (by
  rw [h s₁, h s₂]
  exact .ok a)

/-- Two runs agree if they agree up to some point and go on from contexts that still agree, and on
the paths they started with. -/
theorem tracks_bind {m₁ m₂ : ConvertM α} {f₁ f₂ : α → ConvertM β}
    (hm : Tracks lenient e m₁ m₂) (k₁ : Keeps e m₁) (k₂ : Keeps e m₂)
    (hf : ∀ a, Tracks lenient e (f₁ a) (f₂ a)) :
    Tracks lenient e (m₁ >>= f₁) (m₂ >>= f₂) := by
  intro s₁ s₂ hs
  have a₁ := k₁ s₁
  have a₂ := k₂ s₂
  rcases hm s₁ s₂ hs with ⟨hl, limit, h⟩ | ⟨o, h₁, h₂⟩
  · rcases hr : m₁.outcome s₁ with ⟨r, t⟩
    obtain rfl : r = .error (.maxRecursion limit) := by rw [hr] at h; exact h
    exact .inl ⟨hl, limit, by rw [outcome_bind_of_error hr]⟩
  · rcases hr₁ : m₁.outcome s₁ with ⟨r₁, t₁⟩
    rcases hr₂ : m₂.outcome s₂ with ⟨r₂, t₂⟩
    rw [hr₁] at h₁ a₁
    rw [hr₂] at h₂ a₂
    cases o with
    | error error =>
      obtain rfl : r₁ = .error (error.under s₁.context.path) := h₁
      obtain rfl : r₂ = .error (error.under s₂.context.path) := h₂
      rw [outcome_bind_of_error hr₁, outcome_bind_of_error hr₂]
      exact .inr (.error error)
    | ok a =>
      obtain rfl : r₁ = .ok a := h₁
      obtain rfl : r₂ = .ok a := h₂
      rw [outcome_bind_of_ok hr₁, outcome_bind_of_ok hr₂, ← a₁.path_eq, ← a₂.path_eq]
      exact hf a t₁ t₂ (hs.of_allows a₁ a₂)

/-- Two runs in scopes of their own agree if they agree in these scopes. -/
theorem tracks_inScope {m₁ m₂ : ConvertM α} (h : Tracks lenient .inner m₁ m₂) :
    Tracks lenient e (inScope m₁) (inScope m₂) := by
  intro s₁ s₂ _
  rw [outcome_inScope, outcome_inScope]
  exact h s₁.pushScope s₂.pushScope ⟨List.cons_ne_nil _ _, List.cons_ne_nil _ _⟩

/-- Two runs agree around a segment if they agree inside it. -/
theorem tracks_entering {kind : SegmentKind} {m₁ m₂ : ConvertM α} (h : Tracks lenient e m₁ m₂) :
    Tracks lenient e (entering kind m₁) (entering kind m₂) := by
  intro s₁ s₂ hs
  have hs' : e.Twins (s₁.context.enter kind) (s₂.context.enter kind) := by
    cases e <;> exact hs
  rw [outcome_entering, outcome_entering]
  refine (h (s₁.modifyContext (.enter kind)) (s₂.modifyContext (.enter kind)) hs').imp_right ?_
  simp only [Session.context_modifyContext, Context.path_enter]
  exact SameUnder.of_append

/-- Refusals of one segment agree up to the paths of the runs. -/
theorem tracks_refuse (x : Segment) : Tracks lenient e (refuse x) (refuse x) := by
  intro s₁ s₂ _
  have hpath : ∀ path : List SegmentKind, ConvertError.unsupportedSegment x.kind x.span path =
      (ConvertError.unsupportedSegment x.kind x.span []).under path := fun path => by
    rw [ConvertError.under, List.append_nil]
  exact .inr ⟨.error (.unsupportedSegment x.kind x.span []),
    congrArg Except.error (hpath s₁.context.path), congrArg Except.error (hpath s₂.context.path)⟩

/-- Two runs of a program agree if the two descents do. -/
theorem Program.tracks {F : Descent → ConvertM α} (h : Program e F) {go₁ go₂ : Descent}
    (k₁ : ∀ s, Keeps s.effect (go₁ s)) (k₂ : ∀ s, Keeps s.effect (go₂ s))
    (hgo : ∀ s, Tracks lenient s.effect (go₁ s) (go₂ s)) :
    Tracks lenient e (F go₁) (F go₂) := by
  induction h with
  | pure a => exact tracks_of_ok fun _ => rfl
  | fail error he =>
    exact fun s₁ s₂ _ => .inr ⟨.error error, congrArg Except.error (he s₁.context.path).symm,
      congrArg Except.error (he s₂.context.path).symm⟩
  | report event _ => exact tracks_of_ok fun _ => rfl
  | column c => exact tracks_of_ok (result_column c)
  | named settings kind aliasName span plan =>
    intro s₁ s₂ hs
    refine .inr ?_
    rw [result_named, result_named, Context.derivedAlias?_congr settings hs]
    exact .ok _
  | bindAlias name _ => exact tracks_of_ok fun _ => rfl
  | descend s he => exact fun s₁ s₂ hs => hgo s s₁ s₂ (hs.mono he)
  | item ordinal p =>
    intro s₁ s₂ hs
    refine hgo (.projection p) _ _ ?_
    exact (Context.ordinal_setOrdinal hs.1).trans (Context.ordinal_setOrdinal hs.2).symm
  | inScope _ ih => exact tracks_inScope ih
  | bind hF hG ihF ihG => exact tracks_bind ihF (hF.keeps k₁) (hF.keeps k₂) ihG

/-! ## Conversions -/

namespace Compiler

/-- The compiler with another nesting limit. -/
def limited (c : Compiler) (limit : UInt64) : Compiler :=
  { c with settings := { c.settings with maxDepth := limit } }

variable (c : Compiler)

/-- The limit plays no part in the conversion of a segment that has been entered. -/
theorem convertEntered_limited (limit : UInt64) (go : Descent) (s : Segment) :
    (c.limited limit).convertEntered go s = c.convertEntered go s := by
  cases s <;> rfl

/-- With at least as many levels, a conversion has the same result; with as many levels and
the same limit, it also fails alike for want of them. -/
theorem tracks_convertWithin (lenient : Prop) (limit₁ limit₂ : UInt64) :
    ∀ (n₁ n₂ : Nat), n₁ ≤ n₂ → lenient ∨ n₁ = n₂ ∧ limit₁ = limit₂ → ∀ s : Segment,
      Tracks lenient s.effect ((c.limited limit₁).convertWithin n₁ s)
        ((c.limited limit₂).convertWithin n₂ s)
  | 0, n₂, _, hl, s => by
    intro s₁ s₂ _
    rcases hl with hl | ⟨rfl, rfl⟩
    · exact .inl ⟨hl, limit₁, rfl⟩
    · exact .inr (SameUnder.error (.maxRecursion limit₁))
  | n₁ + 1, 0, hle, _, _ => absurd hle (Nat.not_succ_le_zero n₁)
  | n₁ + 1, n₂ + 1, hle, hl, s => by
    have ih := tracks_convertWithin lenient limit₁ limit₂ n₁ n₂
      (Nat.le_of_succ_le_succ hle) (hl.imp_right fun h => ⟨Nat.succ.inj h.1, h.2⟩)
    have h : Tracks lenient s.effect
        (c.convertEntered ((c.limited limit₁).convertWithin n₁) s)
        (c.convertEntered ((c.limited limit₂).convertWithin n₂) s) := by
      rcases convertEntered_cases c s with ⟨-, hrefused⟩ | hprogram
      · rw [hrefused, hrefused]
        exact tracks_refuse s
      · exact hprogram.tracks ((c.limited limit₁).keeps_convertWithin n₁)
          ((c.limited limit₂).keeps_convertWithin n₂) ih
    intro s₁ s₂ hs
    simp only [convertWithin, convertEntered_limited]
    exact tracks_entering h _ _ hs

/-- The result of converting a table, an expression, a statement or a nested SELECT in one
context is its result in any other with at least as many levels left, unless the first run
ends for want of levels. A refused segment is reported under the path of each context. -/
theorem convert_sameUnder (limit₁ limit₂ : UInt64) (s : Segment)
    (hs : ∀ p, s ≠ .projection p) (s₁ s₂ : Session)
    (hlevels : (c.limited limit₁).levelsLeft s₁.context ≤ (c.limited limit₂).levelsLeft s₂.context)
    (hfirst : ∀ limit,
      (((c.limited limit₁).convert s).outcome s₁).1 ≠ .error (.maxRecursion limit)) :
    SameUnder s₁.context.path s₂.context.path (((c.limited limit₁).convert s).outcome s₁).1
      (((c.limited limit₂).convert s).outcome s₂).1 := by
  have htwins : s.effect.Twins s₁.context s₂.context := by
    cases s with
    | projection p => exact absurd rfl (hs p)
    | table _ | expression _ | statement _ | select _ => trivial
  rcases c.tracks_convertWithin True limit₁ limit₂ _ _ hlevels (.inl trivial) s s₁ s₂ htwins
    with ⟨-, limit, h⟩ | h
  · exact absurd h (hfirst limit)
  · exact h

/-- A raw expression below a negation is refused in both contexts, each time under the path
of the context. -/
theorem convert_sameUnder_common :
    SameUnder [] [.selectStatement, .subquery]
      ((((({} : Compiler).limited 2).convert
        (.expression (.negation (.common "x" .zero) .zero))).outcome {}).1)
      ((((({} : Compiler).limited 9).convert
        (.expression (.negation (.common "x" .zero) .zero))).outcome
          ⟨⟨2, [.subquery, .selectStatement], [⟨["t"], 3⟩]⟩, []⟩).1) :=
  convert_sameUnder {} 2 9 (.expression (.negation (.common "x" .zero) .zero)) (by simp) {}
    ⟨⟨2, [.subquery, .selectStatement], [⟨["t"], 3⟩]⟩, []⟩ (by decide)
    (fun _ h => ConvertError.noConfusion (Except.error.inj h))

/-! ## Converting again -/

/-- After converting `s` the context is as it was, and converting `s` once more gives the same
result. -/
def Restores (s : Segment) (t : Session) : Prop :=
  ((c.convert s).outcome t).2.context = t.context ∧
    ((c.convert s).outcome ((c.convert s).outcome t).2).1 = ((c.convert s).outcome t).1

variable {c} in
/-- Nothing but the context matters for the result; the events so far do not. -/
theorem convert_congr {s : Segment} {s₁ s₂ : Session} (h : s₁.context = s₂.context) :
    ((c.convert s).outcome s₁).1 = ((c.convert s).outcome s₂).1 := by
  have htwins : s.effect.Twins s₁.context s₂.context := by
    cases s with
    | projection _ => exact congrArg Context.ordinal h
    | table _ | expression _ | statement _ | select _ => trivial
  have hlevels : c.levelsLeft s₁.context = c.levelsLeft s₂.context := by rw [h]
  have hsame := c.tracks_convertWithin False c.settings.maxDepth c.settings.maxDepth _ _
    (Nat.le_of_eq hlevels) (.inr ⟨hlevels, rfl⟩) s s₁ s₂ htwins
  have hpath : s₁.context.path = s₂.context.path := by rw [h]
  rw [hpath] at hsame
  exact (hsame.resolve_left fun hl => hl.1).eq

/-- A conversion whose effect allows no change leaves the context as it was. -/
theorem restores_of_allows (s : Segment) (h : ∀ b d, s.effect.Allows b d → d = b)
    (t : Session) : c.Restores s t := by
  have hcontext := h _ _ (c.keeps_convert s t)
  exact ⟨hcontext, convert_congr hcontext⟩

/-- An expression, a select-list item, a nested SELECT and a statement leave the context as it
was, whether they convert to a plan, to nothing or not at all, and so convert alike when they
are converted again. A table may bind names in the innermost scope; without a scope it
changes nothing either. -/
theorem convert_restores (t : Session) :
    (∀ x : Expr, c.Restores (.expression x) t) ∧
    (∀ p : Projection, c.Restores (.projection p) t) ∧
    (∀ q : Select, c.Restores (.select q) t) ∧
    (∀ st : Statement, c.Restores (.statement st) t) ∧
    ∀ table : Table,
      (t.context.scopes = [] ∧
        ((c.convert (.table table)).outcome t).2.context = t.context) ∨
      ∃ scope outer names, t.context.scopes = scope :: outer ∧
        ((c.convert (.table table)).outcome t).2.context =
          { t.context with
            scopes := { scope with aliases := scope.aliases ++ names } :: outer } := by
  refine ⟨fun x => c.restores_of_allows (.expression x) (fun _ _ h => h) t,
    fun p => c.restores_of_allows (.projection p) (fun _ _ h => h) t,
    fun q => c.restores_of_allows (.select q) (fun _ _ h => h) t,
    fun st => c.restores_of_allows (.statement st) (fun _ _ h => h) t, fun table => ?_⟩
  obtain ⟨names, h⟩ := c.keeps_convert (.table table) t
  rw [h]
  cases hscopes : t.context.scopes with
  | nil => exact .inl ⟨rfl, Context.modifyScope_eq_self hscopes⟩
  | cons scope outer =>
    refine .inr ⟨scope, outer, names, rfl, ?_⟩
    rw [Context.bindAliases, Context.modifyScope, hscopes]

end Compiler

end SqlAlgebra
