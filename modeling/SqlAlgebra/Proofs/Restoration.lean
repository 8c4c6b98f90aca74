import SqlAlgebra.Proofs.Program

/-!
# What a conversion leaves behind

A conversion goes down into a segment and comes back up, with a value or with a failure. This
module says what it may have changed in the context by then: nothing, except that a table may
have bound names in the innermost scope. `Effect.Allows` is that bound for each effect, and
`Keeps e m` says that `m` stays within it on every path. The proof has two steps. A program
over a descent that stays within its bounds stays within its own (`Program.keeps`); by
induction on the levels that are left, so does every conversion (`keeps_convertWithin`).
-/

namespace SqlAlgebra

namespace Context

/-- Binds table names in the innermost scope, if there is one. -/
def bindAliases (names : List String) : Context → Context :=
  modifyScope fun scope => { scope with aliases := scope.aliases ++ names }

theorem modifyScope_id (c : Context) : c.modifyScope id = c := by
  unfold modifyScope
  rcases c with ⟨depth, trail, _ | ⟨scope, outer⟩⟩ <;> rfl

theorem modifyScope_modifyScope (f g : Scope → Scope) (c : Context) :
    (c.modifyScope f).modifyScope g = c.modifyScope (g ∘ f) := by
  unfold modifyScope
  rcases c with ⟨depth, trail, _ | ⟨scope, outer⟩⟩ <;> rfl

/-- Without a scope there is nothing to change. -/
theorem modifyScope_eq_self {f : Scope → Scope} {c : Context} (h : c.scopes = []) :
    c.modifyScope f = c := by
  unfold modifyScope
  rcases c with ⟨depth, trail, scopes⟩
  subst h
  rfl

theorem scopes_modifyScope_ne_nil {f : Scope → Scope} {c : Context} (h : c.scopes ≠ []) :
    (c.modifyScope f).scopes ≠ [] := by
  rcases c with ⟨depth, trail, _ | ⟨scope, outer⟩⟩
  · exact absurd rfl h
  · exact List.cons_ne_nil _ _

/-- Inside a scope, a position that is set can be read off again. -/
theorem ordinal_setOrdinal {n : Nat} {c : Context} (h : c.scopes ≠ []) :
    (c.setOrdinal n).ordinal = n := by
  rcases c with ⟨depth, trail, _ | ⟨scope, outer⟩⟩
  · exact absurd rfl h
  · rfl

theorem bindAliases_nil (c : Context) : c.bindAliases [] = c := by
  have h : (fun scope : Scope => { scope with aliases := scope.aliases ++ [] }) = id := by
    funext scope
    rw [List.append_nil]
    rfl
  rw [bindAliases, h, modifyScope_id]

/-- Names that are bound later come after those that are bound already. -/
theorem bindAliases_bindAliases (names names' : List String) (c : Context) :
    (c.bindAliases names).bindAliases names' = c.bindAliases (names ++ names') := by
  unfold bindAliases
  rw [modifyScope_modifyScope]
  congr 1
  funext scope
  rw [Function.comp_apply, List.append_assoc]

/-- Closing the scope that was opened last undoes whatever was done in it. -/
theorem dropScopes_modifyScope_pushScope (f : Scope → Scope) (c : Context) :
    (c.pushScope.modifyScope f).dropScopes c.height = c := by
  rcases c with ⟨depth, trail, scopes⟩
  simp [dropScopes, modifyScope, pushScope, height]

/-- Entering and leaving a segment has no effect on its innermost scope. -/
theorem leave_modifyScope_enter (f : Scope → Scope) (kind : SegmentKind) (c : Context) :
    ((c.enter kind).modifyScope f).leave = c.modifyScope f := by
  rcases c with ⟨depth, trail, scopes⟩
  simp [leave, modifyScope, enter]

end Context

/-! ## Bounds on the change of a context -/

namespace Effect

/-- Whether a conversion with an effect may turn the first context into the second. -/
def Allows : Effect → Context → Context → Prop
  | quiet, before, after => after = before
  | naming, before, after => after = before
  | binding, before, after => ∃ names, after = before.bindAliases names
  | inner, before, after => ∃ f, after = before.modifyScope f

/-- Every effect changes the innermost scope at most. -/
theorem Allows.exists_modifyScope {e : Effect} {b c : Context} (h : e.Allows b c) :
    ∃ f, c = b.modifyScope f := by
  cases e with
  | quiet => exact ⟨id, h.trans b.modifyScope_id.symm⟩
  | naming => exact ⟨id, h.trans b.modifyScope_id.symm⟩
  | binding =>
    obtain ⟨names, rfl⟩ := h
    exact ⟨_, rfl⟩
  | inner => exact h

theorem allows_refl (e : Effect) (c : Context) : e.Allows c c := by
  cases e with
  | quiet => rfl
  | naming => rfl
  | binding => exact ⟨[], c.bindAliases_nil.symm⟩
  | inner => exact ⟨id, c.modifyScope_id.symm⟩

/-- What an effect allows twice in a row it allows at once. -/
theorem Allows.trans {e : Effect} {b c d : Context} (h : e.Allows b c) (h' : e.Allows c d) :
    e.Allows b d := by
  cases e with
  | quiet => exact Eq.trans h' h
  | naming => exact Eq.trans h' h
  | binding =>
    obtain ⟨names, rfl⟩ := h
    obtain ⟨names', rfl⟩ := h'
    exact ⟨names ++ names', Context.bindAliases_bindAliases names names' b⟩
  | inner =>
    obtain ⟨f, rfl⟩ := h
    obtain ⟨g, rfl⟩ := h'
    exact ⟨g ∘ f, Context.modifyScope_modifyScope f g b⟩

theorem Allows.mono {e e' : Effect} {b c : Context} (he : e.within e') (h : e.Allows b c) :
    e'.Allows b c := by
  cases e with
  | quiet => exact Eq.subst (motive := e'.Allows b) h.symm (allows_refl e' b)
  | naming =>
    cases e' with
    | naming => exact h
    | quiet | binding | inner => cases he
  | binding =>
    cases e' with
    | binding => exact h
    | inner => exact h.exists_modifyScope
    | quiet | naming => cases he
  | inner =>
    cases e' with
    | inner => exact h
    | quiet | naming | binding => cases he

end Effect

/-! ## Programs stay within their effect -/

open Conversion ConvertM

variable {e : Effect} {α : Type}

/-- Whatever its result, `m` changes the context within the bound of `e`. -/
def Keeps (e : Effect) (m : ConvertM α) : Prop :=
  ∀ s, e.Allows s.context (m.outcome s).2.context

/-- A conversion that leaves the context alone stays within every bound. -/
theorem keeps_of_context_eq {m : ConvertM α} (h : ∀ s, (m.outcome s).2.context = s.context) :
    Keeps e m := fun s => by
  rw [h s]
  exact e.allows_refl _

/-- Two steps within a bound make a conversion within it, also if the second is not reached. -/
theorem keeps_bind {β : Type} {m : ConvertM α} {f : α → ConvertM β} (hm : Keeps e m)
    (hf : ∀ a, Keeps e (f a)) : Keeps e (m >>= f) := by
  intro s
  have h := hm s
  rw [outcome_bind]
  rcases hr : m.outcome s with ⟨error | a, t⟩ <;> rw [hr] at h
  · exact h
  · exact h.trans (hf a t)

/-- A conversion does not close the scope it began in. -/
theorem Keeps.scopes_ne_nil {m : ConvertM α} (h : Keeps e m) {s t : Session}
    {r : Except ConvertError α} (hr : m.outcome s = (r, t)) (hs : s.context.scopes ≠ []) :
    t.context.scopes ≠ [] := by
  obtain ⟨f, hf⟩ := (h s).exists_modifyScope
  rw [hr] at hf
  rw [hf]
  exact Context.scopes_modifyScope_ne_nil hs

/-- A conversion ends at the depth at which it began. -/
theorem Keeps.depth_eq {m : ConvertM α} (h : Keeps e m) (s : Session) :
    (m.outcome s).2.context.depth = s.context.depth := by
  obtain ⟨f, hf⟩ := (h s).exists_modifyScope
  rw [hf]
  rfl

theorem keeps_column (c : Column) : Keeps e (column c) := by
  refine keeps_of_context_eq fun s => ?_
  rw [outcome_column]
  exact s.context_seen c

theorem keeps_named (settings : CompilerSettings) (kind : SegmentKind)
    (aliasName : Option String) (span : Span) (plan : Plan) :
    Keeps e (named settings kind aliasName span plan) := by
  refine keeps_of_context_eq fun s => ?_
  unfold named
  cases aliasName with
  | some name => rfl
  | none =>
    dsimp only
    rw [outcome_bind_of_ok (outcome_context s)]
    split <;> rfl

/-- A scope of its own confines a conversion that changes nothing but the innermost scope. -/
theorem keeps_inScope {m : ConvertM α} (h : Keeps .inner m) : Keeps e (inScope m) := by
  refine keeps_of_context_eq fun s => ?_
  obtain ⟨f, hf⟩ := h s.pushScope
  rw [outcome_inScope]
  have hlt : s.context.height < (m.outcome s.pushScope).2.context.height := by
    rw [hf]
    simp [Context.height, Context.modifyScope, Context.pushScope]
  rw [Session.context_rollback hlt, hf]
  exact Context.dropScopes_modifyScope_pushScope f s.context

/-- The bound on what happens inside a segment holds around it. -/
theorem keeps_entering {kind : SegmentKind} {m : ConvertM α} (h : Keeps e m) :
    Keeps e (entering kind m) := by
  intro s
  have hm := h (s.modifyContext (.enter kind))
  rw [outcome_entering]
  simp only [Session.context_modifyContext] at hm ⊢
  cases e with
  | quiet =>
    change _ = _ at hm
    rw [hm]
    rfl
  | naming =>
    change _ = _ at hm
    rw [hm]
    rfl
  | binding =>
    obtain ⟨names, hn⟩ := hm
    rw [hn]
    exact ⟨names, Context.leave_modifyScope_enter _ kind s.context⟩
  | inner =>
    obtain ⟨f, hf⟩ := hm
    rw [hf]
    exact ⟨f, Context.leave_modifyScope_enter f kind s.context⟩

/-- A program stays within its effect if the descent stays within the effects of the
segments. -/
theorem Program.keeps {F : Descent → ConvertM α} (h : Program e F) {go : Descent}
    (hgo : ∀ s, Keeps s.effect (go s)) : Keeps e (F go) := by
  induction h with
  | pure a => exact keeps_of_context_eq fun _ => rfl
  | fail error _ => exact keeps_of_context_eq fun _ => rfl
  | report event _ => exact keeps_of_context_eq fun _ => rfl
  | column c => exact keeps_column c
  | named settings kind aliasName span plan => exact keeps_named settings kind aliasName span plan
  | bindAlias name he => exact fun s => Effect.Allows.mono he ⟨[name], rfl⟩
  | descend s he => exact fun t => (hgo s t).mono he
  | item ordinal p =>
    refine keeps_bind (fun s => ⟨_, rfl⟩) fun _ t => ?_
    exact (hgo (.projection p) t).exists_modifyScope
  | inScope _ ih => exact keeps_inScope ih
  | bind _ _ ihF ihG => exact keeps_bind ihF ihG

/-- Over a descent that stays within the effects of the segments, `F` changes nothing but the
innermost scope. -/
def Contained (F : Descent → ConvertM α) : Prop :=
  ∀ {go : Descent}, (∀ x, Keeps x.effect (go x)) → Keeps .inner (F go)

/-- Whatever its effect, a program changes nothing but the innermost scope. -/
theorem Program.contained {F : Descent → ConvertM α} (h : Program e F) :
    Contained F :=
  fun hgo s => (h.keeps hgo s).exists_modifyScope

namespace Compiler

variable (c : Compiler)

/-- A conversion stays within the effect of its segment, whatever the registry says and
however many levels are left. -/
theorem keeps_convertWithin : ∀ (levels : Nat) (s : Segment),
    Keeps s.effect (c.convertWithin levels s)
  | 0, _ => keeps_of_context_eq fun _ => rfl
  | levels + 1, s => by
    refine keeps_bind (keeps_of_context_eq fun _ => rfl) fun here => ?_
    refine keeps_bind (keeps_of_context_eq fun _ => rfl) fun _ => ?_
    refine keeps_entering ?_
    rcases convertEntered_cases c s with ⟨-, hrefused⟩ | hprogram
    · rw [hrefused]
      exact keeps_of_context_eq fun _ => rfl
    · exact hprogram.keeps (keeps_convertWithin levels)

/-- A conversion stays within the effect of its segment, and so it does within the nesting limit. -/
theorem keeps_convert (s : Segment) : Keeps s.effect (c.convert s) :=
  fun t => c.keeps_convertWithin (c.levelsLeft t.context) s t

end Compiler

end SqlAlgebra
