import SqlAlgebra.Proofs.Program

/-!
# Conversions that are alike

Two conversions are alike if in the same context they come to the same result and leave the same
context behind (`Alike`). Nothing is said about the logs, which tell the segments as they were
written and which no conversion reads. Failures are compared through a view, so that a text they
quote can be left out of account; the view `id` compares them as they are.

A program turns descents that are alike into conversions that are alike (`Program.alike`). So
the log makes no difference to a conversion (`Compiler.alike_convertWithin`), and two segments
of one kind are converted alike if they are once they have been entered
(`Compiler.alike_convertWithin_succ`).
-/

namespace SqlAlgebra

open Conversion ConvertM

variable {α β : Type} {view : ConvertError → ConvertError}

/-- From the same context, the same result and the same context after it, where failures are
seen through `view`. -/
def Alike (view : ConvertError → ConvertError) (m₁ m₂ : ConvertM α) : Prop :=
  ∀ s₁ s₂ : Session, s₁.context = s₂.context →
    (m₁.outcome s₁).1.mapError view = (m₂.outcome s₂).1.mapError view ∧
      (m₁.outcome s₁).2.context = (m₂.outcome s₂).2.context

namespace Alike

variable {m₁ m₂ m₃ : ConvertM α}

theorem symm (h : Alike view m₁ m₂) : Alike view m₂ m₁ := by
  intro s₁ s₂ hs
  have hback := h s₂ s₁ hs.symm
  exact ⟨hback.1.symm, hback.2.symm⟩

theorem trans (h : Alike view m₁ m₂) (h' : Alike view m₂ m₃) : Alike view m₁ m₃ := by
  intro s₁ s₂ hs
  have hfirst := h s₁ s₂ hs
  have hsecond := h' s₂ s₂ rfl
  exact ⟨hfirst.1.trans hsecond.1, hfirst.2.trans hsecond.2⟩

/-- Conversions that are alike as they stand have the same results. -/
theorem result_eq (h : Alike id m₁ m₂) (s : Session) :
    (m₁.outcome s).1 = (m₂.outcome s).1 := by
  have hmap : ∀ o : Except ConvertError α, o.mapError id = o := fun o => by cases o <;> rfl
  rw [← hmap (m₁.outcome s).1, (h s s rfl).1, hmap]

end Alike

/-- A step that has the same result from every state and leaves the context alone is alike to
itself. -/
theorem alike_of_result {m : ConvertM α} {r : Except ConvertError α}
    (hresult : ∀ s, (m.outcome s).1 = r) (hcontext : ∀ s, (m.outcome s).2.context = s.context) :
    Alike view m m := fun s₁ s₂ hs => by
  rw [hresult, hresult, hcontext, hcontext]
  exact ⟨rfl, hs⟩

theorem alike_pure (a : α) : Alike view (pure a : ConvertM α) (pure a) :=
  alike_of_result (fun _ => rfl) fun _ => rfl

theorem alike_throw {e₁ e₂ : ConvertError} (h : view e₁ = view e₂) :
    Alike view (throw e₁ : ConvertM α) (throw e₂) :=
  fun _ _ hs => ⟨congrArg Except.error h, hs⟩

/-- If `m` is alike to `n` up to a change of its values, then so is what follows them. -/
theorem alike_bind_map {γ : Type} {g : γ → α} {m : ConvertM α} {n : ConvertM γ}
    {f₁ : α → ConvertM β} {f₂ : γ → ConvertM β} (hm : Alike view m (g <$> n))
    (hf : ∀ a, Alike view (f₁ (g a)) (f₂ a)) : Alike view (m >>= f₁) (n >>= f₂) := by
  intro s₁ s₂ hs
  have h := hm s₁ s₂ hs
  rw [map_eq_pure_bind] at h
  rcases hr₂ : n.outcome s₂ with ⟨e₂ | a₂, t₂⟩
  · rw [outcome_bind_of_error hr₂] at h ⊢
    rcases hr₁ : m.outcome s₁ with ⟨e₁ | a₁, t₁⟩ <;> rw [hr₁] at h
    · rw [outcome_bind_of_error hr₁]
      exact ⟨congrArg Except.error (Except.error.inj h.1), h.2⟩
    · cases h.1
  · rw [outcome_bind_of_ok hr₂] at h ⊢
    rcases hr₁ : m.outcome s₁ with ⟨e₁ | a₁, t₁⟩ <;> rw [hr₁] at h
    · cases h.1
    · obtain rfl : a₁ = g a₂ := Except.ok.inj h.1
      rw [outcome_bind_of_ok hr₁]
      exact hf a₂ t₁ t₂ h.2

/-- Two sequences are alike if their steps are. -/
theorem alike_bind {m₁ m₂ : ConvertM α} {f₁ f₂ : α → ConvertM β} (hm : Alike view m₁ m₂)
    (hf : ∀ a, Alike view (f₁ a) (f₂ a)) : Alike view (m₁ >>= f₁) (m₂ >>= f₂) :=
  alike_bind_map (g := id) (by rwa [id_map]) hf

/-- A step that gives a value and leaves the context alone can be left out in front of what it
is followed by. -/
theorem alike_bind_of_ok {m : ConvertM α} {a : α} {f : α → ConvertM β} {m' : ConvertM β}
    (h : ∀ s, ∃ t, m.outcome s = (.ok a, t) ∧ t.context = s.context)
    (hf : Alike view (f a) m') : Alike view (m >>= f) m' := by
  intro s₁ s₂ hs
  obtain ⟨t, ht, hcontext⟩ := h s₁
  rw [outcome_bind_of_ok ht]
  exact hf t s₂ (hcontext.trans hs)

/-- What a rollback leaves of the context is told by the context. -/
theorem Session.context_rollback_congr {s₁ s₂ : Session} (h : s₁.context = s₂.context)
    (mark : Nat) : (s₁.rollback mark).context = (s₂.rollback mark).context := by
  unfold rollback
  rw [h]
  split
  · exact congrArg (Context.dropScopes mark) h
  · exact h

theorem alike_inScope {m₁ m₂ : ConvertM α} (h : Alike view m₁ m₂) :
    Alike view (inScope m₁) (inScope m₂) := by
  intro s₁ s₂ hs
  have hinner := h s₁.pushScope s₂.pushScope (congrArg Context.pushScope hs)
  rw [outcome_inScope, outcome_inScope, hs]
  exact ⟨hinner.1, Session.context_rollback_congr hinner.2 _⟩

/-- Inside segments of one kind, conversions stay alike. -/
theorem alike_entering {kind : SegmentKind} {m₁ m₂ : ConvertM α} (h : Alike view m₁ m₂) :
    Alike view (entering kind m₁) (entering kind m₂) := by
  intro s₁ s₂ hs
  have hinner := h (s₁.modifyContext (.enter kind)) (s₂.modifyContext (.enter kind))
    (congrArg (Context.enter kind) hs)
  rw [outcome_entering, outcome_entering]
  exact ⟨hinner.1, congrArg Context.leave hinner.2⟩

theorem alike_named (settings : CompilerSettings) (kind : SegmentKind)
    (aliasName : Option String) (span : Span) (plan : Plan) :
    Alike view (named settings kind aliasName span plan)
      (named settings kind aliasName span plan) := by
  unfold named
  cases aliasName with
  | some name => exact alike_pure _
  | none =>
    intro s₁ s₂ hs
    dsimp only
    rw [outcome_bind_of_ok (outcome_context s₁), outcome_bind_of_ok (outcome_context s₂), hs]
    split <;> exact ⟨rfl, hs⟩

/-- Two segments of one kind and span are refused alike. -/
theorem alike_refuse {x y : Segment} (hkind : x.kind = y.kind) (hspan : x.span = y.span) :
    Alike view (refuse x) (refuse y) := by
  intro s₁ s₂ hs
  refine ⟨?_, hs⟩
  rw [result_refuse, result_refuse, hkind, hspan, hs]

/-- A program turns descents that are alike into conversions that are alike. -/
theorem Program.alike {e : Effect} {F : Descent → ConvertM α} (h : Program e F)
    {go₁ go₂ : Descent} (hgo : ∀ x, Alike view (go₁ x) (go₂ x)) :
    Alike view (F go₁) (F go₂) := by
  induction h with
  | pure a => exact alike_pure a
  | fail error _ => exact alike_throw rfl
  | report event _ => exact alike_of_result (fun _ => rfl) fun _ => rfl
  | column c =>
    refine alike_of_result (result_column c) fun s => ?_
    rw [outcome_column]
    exact s.context_seen c
  | named settings kind aliasName span plan => exact alike_named settings kind aliasName span plan
  | bindAlias name _ => exact fun s₁ s₂ hs => ⟨rfl, congrArg (Context.bindAlias name) hs⟩
  | descend x _ => exact hgo x
  | item ordinal p =>
    exact fun s₁ s₂ hs => hgo (.projection p) _ _ (congrArg (Context.setOrdinal ordinal) hs)
  | inScope _ ih => exact alike_inScope ih
  | bind _ _ ihF ihG => exact alike_bind ihF ihG

/-- Segments of one kind that stand in the same place are handled alike if each rule converts
them alike, and so does the descent. -/
theorem alike_handled {ρ : Type} {rule₁ rule₂ : ρ → ConvertM (Option Plan)} {go : Descent}
    {x y : Segment} (handler : Handler ρ) (hrule : ∀ r, Alike view (rule₁ r) (rule₂ r))
    (hgo : Alike view (go x) (go y)) (hkind : x.kind = y.kind) (hspan : x.span = y.span) :
    Alike view (handled handler rule₁ go x) (handled handler rule₂ go y) := by
  cases handler with
  | rule r => exact hrule r
  | absent => exact alike_pure none
  | redispatch => exact hgo
  | unsupported => exact alike_refuse hkind hspan

namespace Compiler

variable (c : Compiler)

/-- Two segments of one kind are converted alike if they are once they have been entered. -/
theorem alike_convertWithin_succ {levels : Nat} {x y : Segment} (hkind : x.kind = y.kind)
    (h : Alike view (c.convertEntered (c.convertWithin levels) x)
      (c.convertEntered (c.convertWithin levels) y)) :
    Alike view (c.convertWithin (levels + 1) x) (c.convertWithin (levels + 1) y) := by
  intro s₁ s₂ hs
  simp only [convertWithin, hkind]
  exact alike_entering h _ _ hs

/-- The log makes no difference to a conversion. -/
theorem alike_convertWithin : ∀ (levels : Nat) (x : Segment),
    Alike view (c.convertWithin levels x) (c.convertWithin levels x)
  | 0, _ => alike_throw rfl
  | levels + 1, x => by
    refine c.alike_convertWithin_succ rfl ?_
    rcases convertEntered_cases c x with ⟨-, hrefused⟩ | hprogram
    · rw [hrefused]
      exact alike_refuse rfl rfl
    · exact hprogram.alike (alike_convertWithin levels)

/-- The number of levels left is the same from the same context. -/
theorem alike_convert {x y : Segment}
    (h : ∀ levels, Alike view (c.convertWithin levels x) (c.convertWithin levels y)) :
    Alike view (c.convert x) (c.convert y) := by
  intro s₁ s₂ hs
  unfold convert
  rw [outcome_bind_of_ok (outcome_context s₁), outcome_bind_of_ok (outcome_context s₂), hs]
  exact h _ s₁ s₂ hs

end Compiler

end SqlAlgebra
