import SqlAlgebra.Proofs.Acceptance
import SqlAlgebra.Proofs.Independence

/-!
# The nesting limit

How the result of a conversion depends on the nesting limit. A conversion counts the levels
that are left, which comes to the same as checking the depth against the limit at every segment
it enters (`outcome_convert`): programs end at the depth at which they began, so the segments
inside are all converted with the levels that their own depth leaves.

Raising the limit never changes a plan that was found (`tryConvert_limited_mono`), so at most
one plan comes out whatever the limit. Which limits are too low is read off the statement:
`Segment.height` counts the segments on the longest descent, and a statement that converts at
all converts under a limit exactly if the limit is at least its height. Under a lower limit,
zero included, it fails for want of levels and names that limit (`tryConvert_limited`).
-/

namespace SqlAlgebra

/-! ## The limit as a bound on the depth -/

section Depth

open Conversion ConvertM

variable {e : Effect} {α : Type}

/-- A program does the same over two descents that do the same at the depth it starts from,
since the segments it hands on are all entered from there. -/
theorem Program.outcome_eq {F : Descent → ConvertM α} (h : Program e F) {go go' : Descent}
    {depth : Nat} (hgo : ∀ x, Keeps x.effect (go x))
    (hsame : ∀ x s, s.context.depth = depth → (go x).outcome s = (go' x).outcome s) :
    ∀ s, s.context.depth = depth → (F go).outcome s = (F go').outcome s := by
  induction h with
  | pure a => exact fun _ _ => rfl
  | fail error _ => exact fun _ _ => rfl
  | report event _ => exact fun _ _ => rfl
  | column c => exact fun _ _ => rfl
  | named settings kind aliasName span plan => exact fun _ _ => rfl
  | bindAlias name _ => exact fun _ _ => rfl
  | descend x _ => exact hsame x
  | item ordinal p => exact fun s hs => hsame (.projection p) _ hs
  | inScope _ ih =>
    intro s hs
    rw [outcome_inScope, outcome_inScope, ih s.pushScope hs]
  | @bind e α β F G hF _ ihF ihG =>
    intro s hs
    have hdepth := (hF.keeps hgo).depth_eq s
    rcases hr : (F go).outcome s with ⟨error | a, t⟩
    · rw [outcome_bind_of_error hr, outcome_bind_of_error ((ihF s hs).symm.trans hr)]
    · rw [hr] at hdepth
      rw [outcome_bind_of_ok hr, outcome_bind_of_ok ((ihF s hs).symm.trans hr)]
      exact ihG a t (hdepth.trans hs)

namespace Compiler

variable (c : Compiler)

/-- A conversion runs with the levels that the depth leaves. -/
theorem outcome_convert_eq (x : Segment) (s : Session) :
    (c.convert x).outcome s = (c.convertWithin (c.levelsLeft s.context) x).outcome s :=
  outcome_bind_of_ok (outcome_context s)

/-- Inside a segment, the levels that are left are those that the depth leaves. -/
theorem outcome_convertEntered_convertWithin (x : Segment) (s : Session) :
    (c.convertEntered (c.convertWithin (c.levelsLeft s.context)) x).outcome s =
      (c.convertEntered c.convert x).outcome s := by
  rcases convertEntered_cases c x with ⟨-, hrefused⟩ | hprogram
  · rw [hrefused, hrefused]
  · refine hprogram.outcome_eq (c.keeps_convertWithin _) (fun y t ht => ?_) s rfl
    rw [outcome_convert_eq, levelsLeft, levelsLeft, ht]

/-- Counting levels is the same as checking the depth at every segment. A conversion fails if
the depth has come up to the limit. Otherwise it enters the segment, with the conversion itself
for the segments inside, and leaves the segment whatever comes of it. -/
theorem outcome_convert (x : Segment) (s : Session) :
    (c.convert x).outcome s =
      if c.settings.maxDepth.toNat ≤ s.context.depth then
        (.error (.maxRecursion c.settings.maxDepth), s)
      else
        (((c.convertEntered c.convert x).outcome (s.inside x)).1,
          ((c.convertEntered c.convert x).outcome (s.inside x)).2.modifyContext .leave) := by
  rw [outcome_convert_eq]
  split
  · rename_i hle
    rw [levelsLeft, Nat.sub_eq_zero_of_le hle]
    rfl
  · rename_i hlt
    have hlevels : c.levelsLeft s.context = c.levelsLeft (s.inside x).context + 1 := by
      change _ - s.context.depth = _ - (s.context.depth + 1) + 1
      omega
    rw [hlevels, outcome_convertWithin_succ, outcome_convertEntered_convertWithin]

end Compiler

end Depth

/-! ## Raising and lowering the limit -/

namespace Compiler

/-- A plan found under a limit is found under every higher one. -/
theorem tryConvert_limited_mono (c : Compiler) {st : Statement} {o : Option Plan}
    {low high : UInt64} (hle : low ≤ high) (h : (c.limited low).tryConvert st = .ok o) :
    (c.limited high).tryConvert st = .ok o := by
  have hlevels : low.toNat ≤ high.toNat := UInt64.le_iff_toNat_le.1 hle
  have hruns := c.tracks_convertWithin True low high low.toNat high.toNat hlevels (.inl trivial)
    (.statement st) {} {} trivial
  have hlow : (((c.limited low).convertWithin low.toNat (.statement st)).outcome {}).1 = .ok o := h
  rcases hruns with ⟨-, limit, hlimit⟩ | hsame
  · rw [hlow] at hlimit
    cases hlimit
  · exact hsame.eq.symm.trans hlow

variable (settings : CompilerSettings)

/-- With fewer levels than its height, a well-formed statement fails for want of levels. -/
theorem tryConvert_eq_maxRecursion {st : Statement} (hwf : (Segment.statement st).wellFormed)
    (hlow : settings.maxDepth.toNat < (Segment.statement st).height) :
    (⟨settings, .standard⟩ : Compiler).tryConvert st =
      .error (.maxRecursion settings.maxDepth) := by
  have hverdict := verdict_tryConvert settings st
  cases hresult : (⟨settings, .standard⟩ : Compiler).tryConvert st with
  | ok o =>
    rw [hresult] at hverdict
    have hheight := (hverdict.2.1 _ (List.mem_singleton.2 rfl)).2
    omega
  | error e =>
    rw [hresult] at hverdict
    obtain ⟨rfl, -⟩ := hverdict trivial (List.forall_mem_singleton.2 hwf)
    rfl

/-- With as many levels as its height, a well-formed statement has a plan. -/
theorem exists_tryConvert_eq_some {st : Statement} (hwf : (Segment.statement st).wellFormed)
    (hheight : (Segment.statement st).height ≤ settings.maxDepth.toNat) :
    ∃ plan, (⟨settings, .standard⟩ : Compiler).tryConvert st = .ok (some plan) := by
  have hverdict := verdict_tryConvert settings st
  cases hresult : (⟨settings, .standard⟩ : Compiler).tryConvert st with
  | ok o =>
    rw [hresult] at hverdict
    obtain ⟨plan, rfl⟩ := Option.isSome_iff_exists.1 hverdict.2.2
    exact ⟨plan, rfl⟩
  | error e =>
    rw [hresult] at hverdict
    obtain ⟨-, p, hp, hn⟩ := hverdict trivial (List.forall_mem_singleton.2 hwf)
    obtain rfl := List.mem_singleton.1 hp
    omega

/-- Only well-formed statements have a plan. -/
theorem wellFormed_of_tryConvert {st : Statement} {plan : Plan}
    (h : (⟨settings, .standard⟩ : Compiler).tryConvert st = .ok (some plan)) :
    (Segment.statement st).wellFormed := by
  have hverdict := verdict_tryConvert settings st
  rw [h] at hverdict
  exact (hverdict.2.1 _ (List.mem_singleton.2 rfl)).1

/-- A statement that converts under some limit converts to the same plan under every limit
that is at least its height, and fails for want of levels under every other one. The other limit
may be the higher or the lower of the two; the plan of the lower one is that of the higher. -/
theorem tryConvert_limited {st : Statement} {plan : Plan}
    (h : (⟨settings, .standard⟩ : Compiler).tryConvert st = .ok (some plan)) (limit : UInt64) :
    ((⟨settings, .standard⟩ : Compiler).limited limit).tryConvert st =
      if (Segment.statement st).height ≤ limit.toNat then .ok (some plan)
      else .error (.maxRecursion limit) := by
  have hwf := wellFormed_of_tryConvert settings h
  split
  · rename_i hheight
    obtain ⟨found, hfound⟩ :=
      exists_tryConvert_eq_some { settings with maxDepth := limit } hwf hheight
    rcases UInt64.le_total limit settings.maxDepth with hle | hle
    · have hsame := tryConvert_limited_mono ⟨settings, .standard⟩ hle hfound
      have hplan : found = plan := Option.some.inj (Except.ok.inj (hsame.symm.trans h))
      rwa [hplan] at hfound
    · exact tryConvert_limited_mono ⟨settings, .standard⟩ hle h
  · rename_i hheight
    exact tryConvert_eq_maxRecursion { settings with maxDepth := limit } hwf
      (Nat.lt_of_not_le hheight)

/-- `DELETE FROM t WHERE ? IN (TABLE u)`. Its longest descent goes through the statement, the
membership test, the subquery and the table in it. -/
def deleteMember : Statement :=
  .delete ⟨.simple { name := "t" },
    some ⟨.membership (.parameter 0 .zero) (.subquery ⟨⟨none, some (.simple { name := "u" }),
      none, none, none, none, none, none, .zero⟩, .zero⟩) false .zero, .zero⟩,
    none, none, .zero⟩

/-- The longest descent of `deleteMember` has four segments. -/
theorem height_deleteMember : (Segment.statement deleteMember).height = 4 := by
  simp [deleteMember, Segment.height_eq, Segment.visits, Statement.visits, conditionVisits,
    Expr.visits, Select.visits, orderVisits, Table.visits]

/-- The limit four is enough for `deleteMember`, and three is not. -/
theorem tryConvert_limited_deleteMember : ∃ plan,
    ({} : Compiler).tryConvert deleteMember = .ok (some plan) ∧
    (({} : Compiler).limited 4).tryConvert deleteMember = .ok (some plan) ∧
    (({} : Compiler).limited 3).tryConvert deleteMember = .error (.maxRecursion 3) := by
  refine ⟨_, rfl, ?_, ?_⟩
  · rw [tryConvert_limited {} rfl 4, height_deleteMember]
    exact if_pos (by decide)
  · rw [tryConvert_limited {} rfl 3, height_deleteMember]
    exact if_neg (by decide)

end Compiler

end SqlAlgebra
