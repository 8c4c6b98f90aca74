import SqlAlgebra.Proofs.Inversion
import SqlAlgebra.Proofs.Locality
import SqlAlgebra.Proofs.Removal

/-!
# Where a refusal arose

A refusal tells a path, the kinds of the segments that were entered and not left again. The
path is part of the state that every conversion changes and restores, so nothing about its
shape shows that it leads anywhere. This module shows that it does. A refusal that comes out of
a program has come out of one of its descents, inside the same segments
(`Program.exists_refused`), and the descent was into a part of the segment at hand
(`Compiler.exists_refused_part`). So the path can be followed downwards level by level to the
segment refused (`Compiler.exists_chain`).

For registries made of rules alone, such as the standard one without some of its kinds, the
segment refused is one that is missing from the table of its family
(`Compiler.unsupportedSegment_path`).
-/

namespace SqlAlgebra

open Conversion ConvertM

variable {α : Type} {s : Session} {kind : SegmentKind} {span : Span} {path : List SegmentKind}

/-! ## Chains of parts -/

/-- A way down from one segment to another, each segment a part of the one before it. -/
structure Chain (x y : Segment) (chain : List Segment) : Prop where
  starts : chain.head? = some x
  descends : chain.IsChain fun outer part => part ∈ outer.visits
  ends : chain.getLast? = some y

theorem chain_singleton (x : Segment) : Chain x x [x] :=
  ⟨rfl, .singleton x, rfl⟩

theorem Chain.cons {x y z : Segment} {chain : List Segment} (hy : y ∈ x.visits)
    (h : Chain y z chain) : Chain x z (x :: chain) := by
  obtain ⟨rest, rfl⟩ := List.head?_eq_some_iff.1 h.starts
  exact ⟨rfl, List.isChain_cons_cons.2 ⟨hy, h.descends⟩, h.ends⟩

/-! ## From a program to its descents -/

/-- A refusal comes out of a program only if it comes out of the descent, inside the segments
in which the program began. -/
theorem Program.exists_refused {e : Effect} {F : Descent → ConvertM α} (h : Program e F)
    {go : Descent} (hgo : ∀ x, Keeps x.effect (go x))
    (hr : ((F go).outcome s).1 = .error (.unsupportedSegment kind span path)) :
    ∃ x t, t.context.path = s.context.path ∧
      ((go x).outcome t).1 = .error (.unsupportedSegment kind span path) := by
  refine h.byParts (motive := fun F => ∀ s : Session,
    ((F go).outcome s).1 = .error (.unsupportedSegment kind span path) →
      ∃ x t, t.context.path = s.context.path ∧
        ((go x).outcome t).1 = .error (.unsupportedSegment kind span path)) ?_ ?_ ?_ ?_ s hr
  · intro β m hm s hr
    exact absurd hr (hm.admits s kind span path)
  · intro x s hr
    exact ⟨x, s, rfl, hr⟩
  · intro β F _ ih s hr
    rw [outcome_inScope] at hr
    exact ih s.pushScope hr
  · intro β γ F G hF ihF ihG s hr
    rcases hm : (F go).outcome s with ⟨error | b, t⟩
    · rw [outcome_bind_of_error hm] at hr
      obtain rfl : error = .unsupportedSegment kind span path := Except.error.inj hr
      exact ihF s (congrArg Prod.fst hm)
    · rw [outcome_bind_of_ok hm] at hr
      obtain ⟨x, u, hpath, hu⟩ := ihG b t hr
      have hback : t.context.path = s.context.path := by
        rw [← (hF hgo s).path_eq, hm]
      exact ⟨x, u, hpath.trans hback, hu⟩

namespace Compiler

variable {c : Compiler} {x : Segment}

/-- A refusal that comes out of a segment which is neither refused itself nor handed back comes
out of one of its parts. -/
theorem exists_refused_part {go : Descent} (hgo : ∀ x, Keeps x.effect (go x))
    (hprogram : Program x.effect fun go => c.convertEntered go x)
    (hx : ¬ c.registry.Redispatches x)
    (hr : ((c.convertEntered go x).outcome s).1 =
      .error (.unsupportedSegment kind span path)) :
    ∃ y ∈ x.visits, ∃ t, t.context.path = s.context.path ∧
      ((go y).outcome t).1 = .error (.unsupportedSegment kind span path) := by
  rw [c.convertEntered_congr x (agreeOn_confined go x.visits) fun h => absurd h hx] at hr
  obtain ⟨y, t, hpath, ht⟩ := hprogram.exists_refused (keeps_confined hgo) hr
  by_cases hy : y ∈ x.visits
  · rw [confined_of_mem hy] at ht
    exact ⟨y, hy, t, hpath, ht⟩
  · rw [confined_of_not_mem hy] at ht
    cases ht

/-- Below the segments that are already entered, the path of a refusal follows parts of parts
down to the segment refused, through no more segments than there are levels. -/
theorem exists_chain (hc : ∀ x, ¬ c.registry.Redispatches x) :
    ∀ {levels : Nat} {x : Segment} {s : Session},
      ((c.convertWithin levels x).outcome s).1 =
        .error (.unsupportedSegment kind span path) →
      ∃ chain y, Chain x y chain ∧ path = s.context.path ++ chain.map Segment.kind ∧
        chain.length ≤ levels ∧ y.kind = kind ∧ y.span = span ∧ c.registry.Refuses y := by
  intro levels
  induction levels with
  | zero =>
    intro x s hr
    cases hr
  | succ levels ih =>
    intro x s hr
    rw [outcome_convertWithin_succ] at hr
    have hpath : (s.inside x).context.path = s.context.path ++ [x.kind] :=
      Context.path_enter x.kind s.context
    rcases convertEntered_cases c x with ⟨hrefuses, hrefused⟩ | hprogram
    · rw [hrefused, result_refuse, hpath] at hr
      cases hr
      exact ⟨[x], x, chain_singleton x, rfl, Nat.succ_le_succ (Nat.zero_le _), rfl, rfl, hrefuses⟩
    · obtain ⟨y, hy, t, ht, hr⟩ :=
        exists_refused_part (c.keeps_convertWithin levels) hprogram (hc x) hr
      obtain ⟨chain, z, hchain, hrest, hlength, hz⟩ := ih hr
      refine ⟨x :: chain, z, hchain.cons hy, ?_, Nat.succ_le_succ hlength, hz⟩
      rw [hrest, ht, hpath, List.append_assoc]
      rfl

end Compiler

/-! ## Registries made of rules -/

namespace DispatchTable

variable {ρ : Type} {table : DispatchTable ρ}

theorem Ruled.removeAll (h : table.Ruled) (kinds : List SegmentKind) :
    (table.removeAll kinds).Ruled := by
  intro kind handler hk
  rw [removeAll_eq] at hk
  dsimp only at hk
  split at hk
  · cases hk
  · exact h kind handler hk

/-- A table of rules hands nothing back. -/
theorem Ruled.handler_ne_redispatch (h : table.Ruled) (kind : SegmentKind) :
    table.handler kind ≠ .redispatch := by
  intro heq
  have hdirect := h.isDirect_handler kind
  rw [heq] at hdirect
  cases hdirect

/-- What a table of rules refuses is missing from it. -/
theorem Ruled.contains_eq_false (h : table.Ruled) {kind : SegmentKind}
    (hkind : table.handler kind = .unsupported) : table.contains kind = false := by
  unfold handler at hkind
  unfold contains
  cases hk : table.entry? kind with
  | none => rfl
  | some handler =>
    obtain ⟨r, rfl⟩ := h kind handler hk
    rw [hk] at hkind
    cases hkind

end DispatchTable

/-- Every entry of a registry is a rule. -/
structure Registry.Ruled (r : Registry) : Prop where
  tables : r.tables.Ruled
  projections : r.projections.Ruled
  expressions : r.expressions.Ruled
  statements : r.statements.Ruled
  select : r.select = .standard

/-- There is a table for the family of a segment, and it has no entry for the segment. -/
def Registry.Misses (r : Registry) : Segment → Prop
  | .select _ => False
  | x => r.lists x = false

namespace Registry

variable {r : Registry}

theorem Ruled.withoutAll (h : r.Ruled) (kinds : List SegmentKind) : (r.withoutAll kinds).Ruled := by
  rw [withoutAll_eq]
  exact {
    tables := h.tables.removeAll kinds
    projections := h.projections.removeAll kinds
    expressions := h.expressions.removeAll kinds
    statements := h.statements.removeAll kinds
    select := h.select }

theorem Ruled.not_redispatches (h : r.Ruled) (x : Segment) : ¬ r.Redispatches x := by
  cases x with
  | table t => exact h.tables.handler_ne_redispatch t.kind
  | projection p => exact h.projections.handler_ne_redispatch p.kind
  | expression e => exact h.expressions.handler_ne_redispatch e.kind
  | statement st => exact h.statements.handler_ne_redispatch st.kind
  | select q =>
    unfold Redispatches
    rw [h.select]
    exact nofun

/-- What a registry of rules refuses is missing from it. -/
theorem Ruled.misses (h : r.Ruled) {x : Segment} (hx : r.Refuses x) : r.Misses x := by
  cases x with
  | table t => exact h.tables.contains_eq_false hx
  | projection p => exact h.projections.contains_eq_false hx
  | expression e => exact h.expressions.contains_eq_false hx
  | statement st => exact h.statements.contains_eq_false hx
  | select q => exact hx

end Registry

namespace Compiler

/-- The standard registry is made of rules. -/
theorem ruled_standard (settings : CompilerSettings) (operators : OperatorTable) :
    (standard settings operators).registry.Ruled where
  tables := DispatchTable.ruled_ofRules _ _
  projections := DispatchTable.ruled_ofRules _ _
  expressions := DispatchTable.ruled_ofRules _ _
  statements := DispatchTable.ruled_ofRules _ _
  select := rfl

/-- If a statement is refused for a segment, by a registry from which any kinds are removed, the
path reported consists of the kinds along a chain of segments. The chain leads from the
statement down to a segment of the kind and span reported which the table of its family misses,
and each segment in it is a part of the one before. The path begins with the kind of the
statement, ends with the kind refused, and is no longer than the nesting limit. -/
theorem unsupportedSegment_path (settings : CompilerSettings) (operators : OperatorTable)
    (kinds : List SegmentKind) (st : Statement)
    (h : ((standard settings operators).reduced kinds).tryConvert st =
      .error (.unsupportedSegment kind span path)) :
    (∃ chain y, Chain (.statement st) y chain ∧ path = chain.map Segment.kind ∧
      y.kind = kind ∧ y.span = span ∧
      ((standard settings operators).reduced kinds).registry.Misses y) ∧
    path.head? = some st.kind ∧ path.getLast? = some kind ∧
    1 ≤ path.length ∧ path.length ≤ settings.maxDepth.toNat := by
  have hruled : ((standard settings operators).reduced kinds).registry.Ruled :=
    (ruled_standard settings operators).withoutAll kinds
  obtain ⟨chain, y, hchain, hpath, hlength, hkind, hspan, hrefuses⟩ :=
    exists_chain hruled.not_redispatches h
  obtain rfl : path = chain.map Segment.kind := hpath
  obtain ⟨rest, rfl⟩ := List.head?_eq_some_iff.1 hchain.starts
  refine ⟨⟨_, y, hchain, rfl, hkind, hspan, hruled.misses hrefuses⟩, rfl, ?_, ?_, ?_⟩
  · rw [List.getLast?_map, hchain.ends, ← hkind]
    rfl
  · exact Nat.succ_le_succ (Nat.zero_le _)
  · rw [List.length_map]
    exact hlength

/-- Without NOT, the refusal is found below the condition. The target and the first operand,
which have been left by then, are not on the path. -/
theorem unsupportedSegment_path_deleteNegated :
    ((standard {} .standard).reduced [.negation]).tryConvert deleteNegated =
      .error (.unsupportedSegment .negation ⟨26, 30⟩
        [.deleteStatement, .binaryOperation, .negation]) ∧
    ∃ chain y, Chain (.statement deleteNegated) y chain ∧
      [.deleteStatement, .binaryOperation, .negation] = chain.map Segment.kind ∧
      y.kind = .negation ∧ y.span = ⟨26, 30⟩ ∧
      ((standard {} .standard).reduced [.negation]).registry.Misses y := by
  have h : ((standard {} .standard).reduced [.negation]).tryConvert deleteNegated =
      .error (.unsupportedSegment .negation ⟨26, 30⟩
        [.deleteStatement, .binaryOperation, .negation]) := by
    rfl
  exact ⟨h, (unsupportedSegment_path {} .standard [.negation] deleteNegated h).1⟩

end Compiler

end SqlAlgebra
