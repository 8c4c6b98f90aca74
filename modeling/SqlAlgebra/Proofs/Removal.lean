import SqlAlgebra.Proofs.Logging

/-!
# Registries without some kinds

Removing converters has an effect only where they are missed. A run of the smaller registry is
the run of the larger one up to the first segment that has lost its entry, and there it ends
with the refusal of that segment (`Compiler.tryConvert_reduced`). If the larger registry never
comes to such a segment, the two runs are the same.

Which segments a run enters, and in which order, is told by its log (`Session.entered`); an
entry stands there once the segment has passed the nesting limit. A nested SELECT is in no
dispatch table, so it is lost to no registry.
-/

namespace SqlAlgebra

open Conversion ConvertM

/-! ## Segments entered -/

/-- The segment that an event tells has been entered. -/
def Event.segment? : Event → Option Segment
  | segmentEntered x _ _ => some x
  | selectEntered q _ _ => some (.select q)
  | _ => none

theorem Event.segment?_eq_none {e : Event} (h : e.isRemark) : e.segment? = none := by
  cases e with
  | segmentEntered x depth path => cases h
  | selectEntered q depth path => cases h
  | _ => rfl

theorem segment?_entered (x : Segment) (depth : Nat) (path : List SegmentKind) :
    (entered x depth path).segment? = some x := by
  cases x <;> rfl

namespace Session

/-- The segments entered so far, in order. -/
def entered (s : Session) : List Segment :=
  s.events.filterMap Event.segment?

/-- An event that is recorded adds the segment it tells of. -/
theorem entered_record (e : Event) (s : Session) :
    (s.record e).entered = s.entered ++ e.segment?.toList := by
  rw [entered, entered, events_record, List.filterMap_append]
  cases h : e.segment? <;> simp [h]

/-- A segment that is entered comes after those that were entered before. -/
theorem entered_record_entered (x : Segment) (depth : Nat) (path : List SegmentKind)
    (s : Session) : (s.record (Conversion.entered x depth path)).entered = s.entered ++ [x] := by
  rw [entered_record, segment?_entered]
  rfl

theorem entered_pushScope (s : Session) : s.pushScope.entered = s.entered := by
  rw [entered, events_pushScope, List.filterMap_append]
  exact List.append_nil _

theorem entered_rollback (mark : Nat) (s : Session) : (s.rollback mark).entered = s.entered := by
  obtain ⟨counts, hcounts⟩ := s.exists_events_rollback mark
  have hdropped : (counts.map Event.scopesDropped).filterMap Event.segment? = [] := by
    simp [List.filterMap_eq_nil_iff, Event.segment?]
  rw [entered, hcounts, List.filterMap_append, hdropped]
  exact List.append_nil _

/-- Remarks enter no segment. -/
theorem Remarks.entered_eq {s t : Session} (h : s.Remarks t) : t.entered = s.entered := by
  obtain ⟨news, hnews, hremarks⟩ := h
  have hnone : news.filterMap Event.segment? = [] :=
    List.filterMap_eq_nil_iff.2 fun e he => Event.segment?_eq_none (hremarks e he)
  rw [entered, hnews, List.filterMap_append, hnone]
  exact List.append_nil _

end Session

/-! ## Two runs, one of them cut short -/

variable {α β : Type}

/-- From every state `m'` does what `m` does, unless `m` enters a segment that is lost: then
`m'` is refused the first of these. -/
def Curtails (lost : Segment → Bool) (m m' : ConvertM α) : Prop :=
  ∀ s, ∃ news, (m.outcome s).2.entered = s.entered ++ news ∧
    match news.find? lost with
    | none => m'.outcome s = m.outcome s
    | some x => ∃ path, (m'.outcome s).1 = .error (.unsupportedSegment x.kind x.span path)

variable {lost : Segment → Bool}

/-- A conversion that enters no segment is not cut short. -/
theorem curtails_of_entered_eq {m : ConvertM α}
    (h : ∀ s, (m.outcome s).2.entered = s.entered) : Curtails lost m m :=
  fun s => ⟨[], (h s).trans (List.append_nil _).symm, rfl⟩

/-- A plain step enters nothing, and so comes to nothing that is lost. -/
theorem curtails_of_plain {m : ConvertM α} (h : Plain m) : Curtails lost m m :=
  curtails_of_entered_eq fun s => (h.remarks s).entered_eq

/-- A refusal stays the refusal that it was. -/
theorem curtails_refuse (x : Segment) : Curtails lost (refuse x) (refuse x) :=
  curtails_of_entered_eq fun s => (s.entered_record _).trans (List.append_nil _)

/-- A sequence is cut short in its first step, or in its second, or not at all. -/
theorem curtails_bind {m m' : ConvertM α} {f f' : α → ConvertM β} (hm : Curtails lost m m')
    (hf : ∀ a, Curtails lost (f a) (f' a)) : Curtails lost (m >>= f) (m' >>= f') := by
  intro s
  obtain ⟨news, hnews, hfirst⟩ := hm s
  have hcut : ∀ x, news.find? lost = some x →
      ∃ path, ((m' >>= f').outcome s).1 = .error (.unsupportedSegment x.kind x.span path) := by
    intro x hx
    rw [hx] at hfirst
    obtain ⟨path, hpath⟩ := hfirst
    refine ⟨path, ?_⟩
    rcases hr' : m'.outcome s with ⟨r', t'⟩
    obtain rfl : r' = .error (.unsupportedSegment x.kind x.span path) := by rwa [hr'] at hpath
    rw [outcome_bind_of_error hr']
  rcases hr : m.outcome s with ⟨e | a, t⟩
  · rw [outcome_bind_of_error hr]
    rw [hr] at hnews
    refine ⟨news, hnews, ?_⟩
    cases hfind : news.find? lost with
    | none =>
      rw [hfind] at hfirst
      exact outcome_bind_of_error (hfirst.trans hr)
    | some x => exact hcut x hfind
  · rw [outcome_bind_of_ok hr]
    rw [hr] at hnews
    obtain ⟨news', hnews', hsecond⟩ := hf a t
    refine ⟨news ++ news', by rw [hnews', hnews, List.append_assoc], ?_⟩
    rw [List.find?_append]
    cases hfind : news.find? lost with
    | none =>
      rw [hfind] at hfirst
      rw [Option.none_or, outcome_bind_of_ok (hfirst.trans hr)]
      exact hsecond
    | some x => exact hcut x hfind

/-- A run is cut short where a part of it is, if nothing else in it enters a segment: it goes from
`s` to `f s` before that part, and back by `g s` after it, whatever comes of it. -/
theorem curtails_around {m m' n n' : ConvertM α} {f : Session → Session}
    {g : Session → Session → Session}
    (hn : ∀ s, n.outcome s = ((m.outcome (f s)).1, g s (m.outcome (f s)).2))
    (hn' : ∀ s, n'.outcome s = ((m'.outcome (f s)).1, g s (m'.outcome (f s)).2))
    (hf : ∀ s, (f s).entered = s.entered) (hg : ∀ s t, (g s t).entered = t.entered)
    (h : Curtails lost m m') : Curtails lost n n' := by
  intro s
  obtain ⟨news, hnews, hfirst⟩ := h (f s)
  rw [hn, hn']
  refine ⟨news, by rw [hg, hnews, hf], ?_⟩
  cases hfind : news.find? lost with
  | none =>
    rw [hfind] at hfirst
    rw [hfirst]
  | some x =>
    rw [hfind] at hfirst
    exact hfirst

/-- Around a segment, a run is cut short where it is inside. -/
theorem curtails_entering {kind : SegmentKind} {m m' : ConvertM α} (h : Curtails lost m m') :
    Curtails lost (entering kind m) (entering kind m') :=
  curtails_around (outcome_entering kind m) (outcome_entering kind m') (fun _ => rfl)
    (fun _ _ => rfl) h

/-- In a scope of its own, a run is cut short where it is without. -/
theorem curtails_inScope {m m' : ConvertM α} (h : Curtails lost m m') :
    Curtails lost (inScope m) (inScope m') :=
  curtails_around (outcome_inScope m) (outcome_inScope m') Session.entered_pushScope
    (fun s t => t.entered_rollback s.context.height) h

/-- Entering a segment that is lost ends the second run; if it is not lost, both go on. -/
theorem curtails_enter (x : Segment) (depth : Nat) (path : List SegmentKind)
    {m m' : ConvertM (Option Plan)} (h : Curtails lost m m') :
    Curtails lost (do report (entered x depth path); entering x.kind m)
      (do report (entered x depth path); entering x.kind (if lost x then refuse x else m')) := by
  intro s
  have hinside : Curtails lost (entering x.kind m) (entering x.kind m') := curtails_entering h
  obtain ⟨news, hnews, hfirst⟩ := hinside (s.record (entered x depth path))
  rw [Session.entered_record_entered, List.append_assoc] at hnews
  refine ⟨x :: news, hnews, ?_⟩
  cases hx : lost x with
  | true =>
    rw [List.find?_cons_of_pos hx]
    exact ⟨_, rfl⟩
  | false =>
    rw [List.find?_cons_of_neg (by simp [hx])]
    exact hfirst

/-- A program is cut short as the descent is. -/
theorem Program.curtails {e : Effect} {F : Descent → ConvertM α} (h : Program e F)
    {go go' : Descent} (hgo : ∀ x, Curtails lost (go x) (go' x)) :
    Curtails lost (F go) (F go') :=
  h.byParts (motive := fun F => Curtails lost (F go) (F go')) curtails_of_plain hgo
    (fun _ => curtails_inScope) fun _ => curtails_bind

/-! ## Removing entries -/

namespace DispatchTable

variable {ρ : Type}

/-- The table without entries for some kinds. -/
def removeAll (kinds : List SegmentKind) (table : DispatchTable ρ) : DispatchTable ρ :=
  kinds.foldl (fun table kind => table.remove kind) table

/-- Removing kinds one by one leaves no entry for any of them, and the others as they were. -/
theorem removeAll_eq (kinds : List SegmentKind) (table : DispatchTable ρ) :
    table.removeAll kinds = ⟨fun kind => if kind ∈ kinds then none else table.entry? kind⟩ := by
  induction kinds generalizing table with
  | nil => simp [removeAll]
  | cons k kinds ih =>
    have hstep : table.removeAll (k :: kinds) = (table.remove k).removeAll kinds := rfl
    rw [hstep, ih, DispatchTable.mk.injEq]
    funext kind
    by_cases hk : kind = k <;> simp [remove, hk]

end DispatchTable

namespace Registry

/-- The registry without entries for some kinds. -/
def withoutAll (kinds : List SegmentKind) (r : Registry) : Registry :=
  kinds.foldl (fun r kind => r.without kind) r

theorem withoutAll_eq (kinds : List SegmentKind) (r : Registry) :
    r.withoutAll kinds = { r with
      tables := r.tables.removeAll kinds
      projections := r.projections.removeAll kinds
      expressions := r.expressions.removeAll kinds
      statements := r.statements.removeAll kinds } := by
  induction kinds generalizing r with
  | nil => rfl
  | cons kind kinds ih => exact ih (r.without kind)

/-- Whether the table of a segment's family has an entry for it. A nested SELECT has an entry
of its own, and is in no table. -/
def lists (r : Registry) : Segment → Bool
  | .table t => r.tables.contains t.kind
  | .projection p => r.projections.contains p.kind
  | .expression e => r.expressions.contains e.kind
  | .statement st => r.statements.contains st.kind
  | .select _ => false

/-- Whether a segment loses its entry when some kinds are removed. -/
def loses (r : Registry) (kinds : List SegmentKind) (x : Segment) : Bool :=
  x.kind ∈ kinds && r.lists x

end Registry

/-- A segment whose kind has lost its entry is refused; all others are handled as before. -/
theorem handled_removeAll {ρ : Type} (table : DispatchTable ρ) (kinds : List SegmentKind)
    (kind : SegmentKind) (rule : ρ → ConvertM (Option Plan)) (go : Descent) (x : Segment) :
    handled ((table.removeAll kinds).handler kind) rule go x =
      if kind ∈ kinds && table.contains kind then refuse x
      else handled (table.handler kind) rule go x := by
  rw [DispatchTable.removeAll_eq]
  unfold DispatchTable.handler DispatchTable.contains
  dsimp only
  by_cases hkind : kind ∈ kinds
  · rw [if_pos hkind]
    cases table.entry? kind with
    | none => simp
    | some handler =>
      simp only [hkind, decide_true, Option.isSome_some, Bool.and_self, if_true]
      rfl
  · simp [hkind]

namespace Compiler

/-- The compiler without converters for some kinds. -/
def reduced (c : Compiler) (kinds : List SegmentKind) : Compiler :=
  { c with registry := c.registry.withoutAll kinds }

variable (c : Compiler) (kinds : List SegmentKind)

/-- A segment that has lost its entry is refused; all others are converted as before. -/
theorem convertEntered_reduced (go : Descent) (x : Segment) :
    (c.reduced kinds).convertEntered go x =
      if c.registry.loses kinds x then refuse x else c.convertEntered go x := by
  unfold convertEntered reduced Registry.loses Registry.lists
  rw [Registry.withoutAll_eq]
  cases x with
  | table t => exact handled_removeAll c.registry.tables kinds t.kind _ go _
  | projection p => exact handled_removeAll c.registry.projections kinds p.kind _ go _
  | expression e => exact handled_removeAll c.registry.expressions kinds e.kind _ go _
  | statement st => exact handled_removeAll c.registry.statements kinds st.kind _ go _
  | select q => simp

/-- With any number of levels, a conversion is cut short at the first segment that has lost its
entry. -/
theorem curtails_convertWithin : ∀ (levels : Nat) (x : Segment),
    Curtails (c.registry.loses kinds) (c.convertWithin levels x)
      ((c.reduced kinds).convertWithin levels x)
  | 0, _ => curtails_of_plain (plain_fail fun _ => rfl)
  | levels + 1, x => by
    have ih := curtails_convertWithin levels
    have hentered : Curtails (c.registry.loses kinds)
        (c.convertEntered (c.convertWithin levels) x)
        (c.convertEntered ((c.reduced kinds).convertWithin levels) x) := by
      rcases convertEntered_cases c x with ⟨-, hrefused⟩ | hprogram
      · rw [hrefused, hrefused]
        exact curtails_refuse x
      · exact hprogram.curtails ih
    refine curtails_bind (curtails_of_entered_eq fun _ => rfl) fun here => ?_
    rw [convertEntered_reduced]
    exact curtails_enter x _ _ hentered

/-- A run without converters for some kinds is the run with all of them, unless that one enters
a segment that has lost its entry; then it is refused the first of these. -/
theorem tryConvert_reduced (st : Statement) :
    match (c.run st {}).2.entered.find? (c.registry.loses kinds) with
    | none => (c.reduced kinds).tryConvert st = c.tryConvert st
    | some x => ∃ path,
      (c.reduced kinds).tryConvert st = .error (.unsupportedSegment x.kind x.span path) := by
  obtain ⟨news, hnews, hfirst⟩ :=
    c.curtails_convertWithin kinds c.settings.maxDepth.toNat (.statement st) {}
  have hentered : (c.run st {}).2.entered = news := hnews
  rw [hentered]
  cases hfind : news.find? (c.registry.loses kinds) with
  | none =>
    rw [hfind] at hfirst
    exact congrArg Prod.fst hfirst
  | some x =>
    rw [hfind] at hfirst
    exact hfirst

/-- The segments that the standard run of `deleteNegated` enters. -/
theorem entered_deleteNegated : (({} : Compiler).run deleteNegated {}).2.entered =
    [.statement deleteNegated, .table (.simple { name := "t" }),
      .expression (.binary (.parameter 0 .zero) "AND" (.negation (.parameter 1 .zero) ⟨26, 30⟩)
        .zero),
      .expression (.parameter 0 .zero), .expression (.negation (.parameter 1 .zero) ⟨26, 30⟩),
      .expression (.parameter 1 .zero)] := by
  rfl

/-- The standard run of `deleteNegated` comes to NOT, so without NOT it is refused. It does not
come to a CASE, so nobody misses that. -/
theorem tryConvert_reduced_deleteNegated :
    (∃ path, (({} : Compiler).reduced [.negation]).tryConvert deleteNegated =
      .error (.unsupportedSegment .negation ⟨26, 30⟩ path)) ∧
    (({} : Compiler).reduced [.caseWhen]).tryConvert deleteNegated =
      ({} : Compiler).tryConvert deleteNegated := by
  constructor
  · have h := tryConvert_reduced {} [.negation] deleteNegated
    rw [entered_deleteNegated] at h
    exact h
  · have h := tryConvert_reduced {} [.caseWhen] deleteNegated
    rw [entered_deleteNegated] at h
    exact h

end Compiler

end SqlAlgebra
