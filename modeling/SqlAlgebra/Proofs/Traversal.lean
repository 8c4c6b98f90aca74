import Mathlib.Data.List.Chain
import SqlAlgebra.Proofs.Logging

/-!
# The log as a traversal

A run goes down into segments and opens scopes on the way, and three pieces of its state have
to keep in step with that: the depth, the path and the stack of scopes. What the log tells of
them has the form of a `Traversal`. A segment is entered one level below the segments it is
in, and what happens inside it comes next; a scope is opened on top of those that are open, and
after what happens inside it, that one scope is closed.

The form does not depend on how the run ends, because a failure closes the scopes and leaves the
segments as a value does. One lemma for each way of putting conversions together shows that they
traverse (`Traverses`), and `Compiler.exists_events_convertWithin` goes by induction on the
levels. `Compiler.traced_nested` reads off the form what a reader of the log sees.
-/

namespace SqlAlgebra

open Conversion ConvertM

/-! ## Traversals -/

/-- The events of a conversion that begins inside the segments of `path`, with `height` scopes
open, and is nowhere inside more than `limit` segments. -/
inductive Traversal (limit : Nat) : List SegmentKind → Nat → List Event → Prop
  | done {path : List SegmentKind} {height : Nat} : Traversal limit path height []
  | remark {path : List SegmentKind} {height : Nat} {e : Event} {rest : List Event}
      (he : e.level ≠ .trace) (hrest : Traversal limit path height rest) :
    Traversal limit path height (e :: rest)
  | segment {path : List SegmentKind} {height : Nat} {inner rest : List Event} (x : Segment)
      (hlimit : path.length < limit) (hinner : Traversal limit (path ++ [x.kind]) height inner)
      (hrest : Traversal limit path height rest) :
    Traversal limit path height
      (entered x (path.length + 1) (path ++ [x.kind]) :: (inner ++ rest))
  | scope {path : List SegmentKind} {height : Nat} {inner rest : List Event}
      (hinner : Traversal limit path (height + 1) inner)
      (hrest : Traversal limit path height rest) :
    Traversal limit path height
      (.scopePushed (height + 1) :: (inner ++ .scopesDropped 1 :: rest))

namespace Traversal

variable {limit height : Nat} {path : List SegmentKind} {events events' : List Event}

theorem of_remarks (h : ∀ e ∈ events, e.level ≠ .trace) : Traversal limit path height events := by
  induction events with
  | nil => exact .done
  | cons e events ih =>
    obtain ⟨he, hrest⟩ := List.forall_mem_cons.1 h
    exact .remark he (ih hrest)

theorem append (h : Traversal limit path height events)
    (h' : Traversal limit path height events') :
    Traversal limit path height (events ++ events') := by
  induction h with
  | done => exact h'
  | remark he _ ih => exact .remark he (ih h')
  | segment x hlimit hinner _ _ ih =>
    rw [List.cons_append, List.append_assoc]
    exact .segment x hlimit hinner (ih h')
  | scope hinner _ _ ih =>
    rw [List.cons_append, List.append_assoc, List.cons_append]
    exact .scope hinner (ih h')

end Traversal

/-! ## Scopes -/

/-- Whether an event tells of scopes. -/
def Event.isScope : Event → Bool
  | scopePushed _ | scopesDropped _ => true
  | _ => false

/-- A balanced sequence of scopes opened and closed, the first of them on top of `level` others.
Each opening tells how many scopes are open from then on, and is answered by one closing, which
closes one scope. -/
inductive Nested : Nat → List Event → Prop
  | nil {level : Nat} : Nested level []
  | block {level : Nat} {inner rest : List Event} (hinner : Nested (level + 1) inner)
      (hrest : Nested level rest) :
    Nested level (.scopePushed (level + 1) :: (inner ++ .scopesDropped 1 :: rest))

/-- Two balanced sequences, one after the other, are balanced. -/
theorem Nested.append {level : Nat} {events events' : List Event} (h : Nested level events)
    (h' : Nested level events') : Nested level (events ++ events') := by
  induction h with
  | nil => exact h'
  | block hinner _ _ ih =>
    rw [List.cons_append, List.append_assoc, List.cons_append]
    exact .block hinner (ih h')

theorem Event.isScope_eq_false {e : Event} (h : e.level ≠ .trace) : e.isScope = false := by
  cases e with
  | scopePushed height => exact absurd rfl h
  | scopesDropped count => exact absurd rfl h
  | _ => rfl

theorem isScope_entered (x : Segment) (depth : Nat) (path : List SegmentKind) :
    (entered x depth path).isScope = false := by
  cases x <;> rfl

/-- Scopes are shown at the level of traces. -/
theorem filter_isScope_select (events : List Event) :
    (Level.trace.select events).filter Event.isScope = events.filter Event.isScope := by
  rw [Level.select, List.filter_filter]
  refine List.filter_congr fun e _ => ?_
  cases e <;> rfl

/-- The segments of a traversal do not disturb its scopes. -/
theorem Traversal.nested {limit height : Nat} {path : List SegmentKind} {events : List Event}
    (h : Traversal limit path height events) : Nested height (events.filter Event.isScope) := by
  induction h with
  | done => exact .nil
  | remark he _ ih => rwa [List.filter_cons_of_neg (by simp [Event.isScope_eq_false he])]
  | segment x _ _ _ ihinner ihrest =>
    rw [List.filter_cons_of_neg (by simp [isScope_entered]), List.filter_append]
    exact ihinner.append ihrest
  | scope _ _ ihinner ihrest =>
    rw [List.filter_cons_of_pos rfl, List.filter_append, List.filter_cons_of_pos rfl]
    exact .block ihinner ihrest

/-! ## Arrivals -/

/-- A segment being entered. -/
structure Arrival where
  kind : SegmentKind
  /-- The depth reported. -/
  depth : Nat
  /-- The path inside the segment. -/
  path : List SegmentKind
deriving DecidableEq, Repr

/-- The arrival that an event tells of. -/
def Event.arrival? : Event → Option Arrival
  | segmentEntered x depth path => some ⟨x.kind, depth, path⟩
  | selectEntered _ depth path => some ⟨.selectStatement, depth, path⟩
  | _ => none

/-- The arrivals in a log, in order. -/
def arrivals (events : List Event) : List Arrival :=
  events.filterMap Event.arrival?

theorem Event.arrival?_eq_none {e : Event} (h : e.level ≠ .trace) : e.arrival? = none := by
  cases e with
  | segmentEntered x depth path => exact absurd rfl h
  | selectEntered q depth path => exact absurd rfl h
  | _ => rfl

/-- Entering a segment tells of its kind, its depth and its path. -/
theorem arrival?_entered (x : Segment) (depth : Nat) (path : List SegmentKind) :
    (entered x depth path).arrival? = some ⟨x.kind, depth, path⟩ := by
  cases x <;> rfl

theorem arrivals_append (events events' : List Event) :
    arrivals (events ++ events') = arrivals events ++ arrivals events' :=
  List.filterMap_append

/-- Arrivals are shown at the level of traces. -/
theorem arrivals_select (events : List Event) :
    arrivals (Level.trace.select events) = arrivals events := by
  unfold arrivals Level.select
  rw [List.filterMap_filter]
  refine List.filterMap_congr fun e _ => ?_
  cases hlevel : e.level with
  | trace => simp [Level.rank]
  | _ => simp [Event.arrival?_eq_none (by simp [hlevel] : e.level ≠ .trace)]

/-- The arrivals of a conversion that begins inside `outer` segments. -/
structure Stepwise (limit outer : Nat) (es : List Arrival) : Prop where
  first : ∀ e ∈ es.head?, e.depth = outer + 1
  deeper : ∀ e ∈ es, outer < e.depth
  within : ∀ e ∈ es, e.depth ≤ limit
  steps : es.IsChain fun e next => next.depth ≤ e.depth + 1
  located : ∀ e ∈ es, e.depth = e.path.length ∧ e.path.getLast? = some e.kind

namespace Stepwise

variable {limit outer : Nat} {es es' : List Arrival}

theorem nil : Stepwise limit outer [] :=
  ⟨by simp, by simp, by simp, .nil, by simp⟩

/-- Whatever was entered before has been left, so the next arrival is not deeper than the last. -/
theorem append (h : Stepwise limit outer es) (h' : Stepwise limit outer es') :
    Stepwise limit outer (es ++ es') where
  first e he := by
    rw [List.head?_append] at he
    cases hhead : es.head? with
    | none =>
      rw [hhead] at he
      exact h'.first e he
    | some first =>
      rw [hhead] at he
      exact h.first e (hhead.trans he)
  deeper := List.forall_mem_append.2 ⟨h.deeper, h'.deeper⟩
  within := List.forall_mem_append.2 ⟨h.within, h'.within⟩
  steps := by
    refine List.isChain_append.2 ⟨h.steps, h'.steps, fun e he next hnext => ?_⟩
    have hdeeper := h.deeper e (List.mem_of_getLast? he)
    have hfirst := h'.first next hnext
    omega
  located := List.forall_mem_append.2 ⟨h.located, h'.located⟩

/-- What is entered inside a segment comes after the arrival at the segment. -/
theorem cons {kind : SegmentKind} {path : List SegmentKind} (houter : path.length = outer)
    (hlimit : outer < limit) (h : Stepwise limit (outer + 1) es) :
    Stepwise limit outer (⟨kind, outer + 1, path ++ [kind]⟩ :: es) where
  first := by simp
  deeper := by
    refine List.forall_mem_cons.2 ⟨Nat.lt_succ_self outer, fun e he => ?_⟩
    exact Nat.lt_of_succ_lt (h.deeper e he)
  within := List.forall_mem_cons.2 ⟨hlimit, h.within⟩
  steps := by
    refine List.isChain_cons.2 ⟨fun next hnext => ?_, h.steps⟩
    exact (h.first next hnext).le
  located := by
    refine List.forall_mem_cons.2 ⟨⟨?_, List.getLast?_concat⟩, h.located⟩
    simp [houter]

end Stepwise

/-- The scopes of a traversal do not disturb its arrivals. -/
theorem Traversal.stepwise {limit height : Nat} {path : List SegmentKind} {events : List Event}
    (h : Traversal limit path height events) : Stepwise limit path.length (arrivals events) := by
  induction h with
  | done => exact .nil
  | remark he _ ih => rwa [arrivals, List.filterMap_cons_none (Event.arrival?_eq_none he)]
  | segment x hlimit _ _ ihinner ihrest =>
    rw [List.length_append] at ihinner
    rw [arrivals, List.filterMap_cons_some (arrival?_entered x _ _), List.filterMap_append,
      ← List.cons_append]
    exact (ihinner.cons rfl hlimit).append ihrest
  | scope _ _ ihinner ihrest =>
    rw [arrivals, List.filterMap_cons_none rfl, List.filterMap_append,
      List.filterMap_cons_none rfl]
    exact ihinner.append ihrest

/-! ## Conversions traverse -/

variable {α β : Type} {levels : Nat}

/-- From every state whose depth is the length of its path, `m` adds a traversal to the log, in
which at most `levels` segments are entered inside one another. -/
def Traverses (levels : Nat) (m : ConvertM α) : Prop :=
  ∀ s : Session, s.context.depth = s.context.path.length →
    ∃ news, (m.outcome s).2.events = s.events ++ news ∧
      Traversal (s.context.depth + levels) s.context.path s.context.height news

theorem Event.level_ne_trace {e : Event} (h : e.isRemark) : e.level ≠ .trace := by
  intro hlevel
  simp [isRemark, hlevel] at h

/-- A step that makes remarks only is a traversal. -/
theorem traverses_of_plain {m : ConvertM α} (h : Plain m) : Traverses levels m := by
  intro s _
  obtain ⟨news, hnews, hremarks⟩ := h.remarks s
  exact ⟨news, hnews, .of_remarks fun e he => Event.level_ne_trace (hremarks e he)⟩

theorem traverses_refuse (x : Segment) : Traverses levels (refuse x) := by
  intro s _
  exact ⟨[.converterMissing x.kind x.span s.context.path], Session.events_record _ s,
    .of_remarks (List.forall_mem_singleton.2 (by simp [Event.level]))⟩

theorem Context.height_modifyScope (f : Scope → Scope) (c : Context) :
    (c.modifyScope f).height = c.height := by
  rcases c with ⟨depth, trail, _ | ⟨scope, outer⟩⟩ <;> rfl

/-- Two steps are a traversal, since the second begins at the same depth, on the same path, and with
as many scopes open. -/
theorem traverses_bind {m : ConvertM α} {f : α → ConvertM β} (hkeeps : Keeps .inner m)
    (hm : Traverses levels m) (hf : ∀ a, Traverses levels (f a)) :
    Traverses levels (m >>= f) := by
  intro s hs
  obtain ⟨news, hnews, htraversal⟩ := hm s hs
  obtain ⟨g, hg⟩ := hkeeps s
  rcases hr : m.outcome s with ⟨e | a, t⟩
  · rw [hr] at hnews
    rw [outcome_bind_of_error hr]
    exact ⟨news, hnews, htraversal⟩
  · rw [hr] at hnews hg
    rw [outcome_bind_of_ok hr]
    obtain ⟨news', hnews', htraversal'⟩ := hf a t (by rw [hg]; exact hs)
    rw [hg, Context.height_modifyScope] at htraversal'
    exact ⟨news ++ news', by rw [hnews', hnews, List.append_assoc],
      htraversal.append htraversal'⟩

/-- Closing scopes tells how many have been closed. -/
theorem Session.events_rollback {mark : Nat} {s : Session} (h : mark < s.context.height) :
    (s.rollback mark).events = s.events ++ [.scopesDropped (s.context.height - mark)] := by
  rw [rollback, if_pos h, events_modifyContext, events_record]

/-- Of the scopes that are open at the end, only the one that was opened is closed. -/
theorem traverses_inScope {m : ConvertM α} (hkeeps : Keeps .inner m) (hm : Traverses levels m) :
    Traverses levels (inScope m) := by
  intro s hs
  obtain ⟨news, hnews, htraversal⟩ := hm s.pushScope hs
  obtain ⟨g, hg⟩ := hkeeps s.pushScope
  have hinner : Traversal (s.context.depth + levels) s.context.path (s.context.height + 1) news :=
    htraversal
  have hpushed : s.pushScope.context.height = s.context.height + 1 := rfl
  have hheight : (m.outcome s.pushScope).2.context.height = s.context.height + 1 := by
    rw [hg, Context.height_modifyScope, hpushed]
  rw [outcome_inScope]
  refine ⟨.scopePushed (s.context.height + 1) :: (news ++ .scopesDropped 1 :: []), ?_,
    .scope hinner .done⟩
  rw [Session.events_rollback (by omega), hnews, s.events_pushScope, hpushed, hheight,
    Nat.add_sub_cancel_left]
  simp

/-- A program traverses if the descent does. -/
theorem Program.traverses {e : Effect} {F : Descent → ConvertM α} (h : Program e F)
    {go : Descent} (hkeeps : ∀ x, Keeps x.effect (go x)) (hgo : ∀ x, Traverses levels (go x)) :
    Traverses levels (F go) :=
  h.byParts (motive := fun F => Traverses levels (F go)) traverses_of_plain hgo
    (fun hF => traverses_inScope (hF hkeeps)) fun hF => traverses_bind (hF hkeeps)

namespace Compiler

variable (c : Compiler)

/-- The first that is told of a segment is its entry, and what it takes to convert the segment
comes next. -/
theorem exists_events_convertWithin {x : Segment} {s : Session}
    (hentered : Traverses levels (c.convertEntered (c.convertWithin levels) x))
    (hs : s.context.depth = s.context.path.length) :
    ∃ inner, ((c.convertWithin (levels + 1) x).outcome s).2.events = s.events ++
        entered x (s.context.path.length + 1) (s.context.path ++ [x.kind]) :: inner ∧
      Traversal (s.context.depth + (levels + 1)) (s.context.path ++ [x.kind]) s.context.height
        inner := by
  have hpath : (s.inside x).context.path = s.context.path ++ [x.kind] :=
    Context.path_enter x.kind s.context
  have hdepth : (s.inside x).context.depth = s.context.depth + 1 := rfl
  obtain ⟨inner, hevents, htraversal⟩ := hentered (s.inside x) (by simp [hpath, hdepth, hs])
  refine ⟨inner, ?_, ?_⟩
  · have hinside : (s.inside x).events =
        s.events ++ [entered x (s.context.depth + 1) (s.context.path ++ [x.kind])] := by
      rw [← hpath]
      exact Session.events_record _ s
    rw [outcome_convertWithin_succ, Session.events_modifyContext, hevents, hinside, hs]
    simp
  · rw [hpath, hdepth, Nat.add_right_comm] at htraversal
    exact htraversal

/-- Inside a segment, a traversal goes on one level down. -/
theorem traverses_convertEntered (hgo : ∀ x, Traverses levels (c.convertWithin levels x))
    (x : Segment) : Traverses levels (c.convertEntered (c.convertWithin levels) x) := by
  rcases convertEntered_cases c x with ⟨-, hrefused⟩ | hprogram
  · rw [hrefused]
    exact traverses_refuse x
  · exact hprogram.traverses (c.keeps_convertWithin levels) hgo

/-- Whatever the registry says, a conversion traverses the segments it enters. -/
theorem traverses_convertWithin : ∀ (levels : Nat) (x : Segment),
    Traverses levels (c.convertWithin levels x)
  | 0, _ => traverses_of_plain (plain_fail fun _ => rfl)
  | levels + 1, x => by
    intro s hs
    obtain ⟨inner, hevents, hinner⟩ := c.exists_events_convertWithin
      (c.traverses_convertEntered (traverses_convertWithin levels) x) hs
    refine ⟨_, hevents, ?_⟩
    rw [← List.append_nil inner]
    exact .segment x (by omega) hinner .done

/-! ## Runs of whole statements -/

theorem level_closing (st : Statement) (r : Except ConvertError Plan) :
    (closing st r).level ≠ .trace := by
  rcases r with e | plan
  · cases hfatal : e.isFatal <;> simp [closing, Event.level, hfatal]
  · simp [closing, Event.level]

/-- The log of a run is a traversal that begins outside of all segments and scopes. -/
theorem traversal_traced (st : Statement) :
    Traversal c.settings.maxDepth.toNat [] 0 (c.traced st).2 := by
  obtain ⟨news, hnews, htraversal⟩ :=
    c.traverses_convertWithin c.settings.maxDepth.toNat (.statement st) (opened st) rfl
  have hevents : (c.run st (opened st)).2.events =
      .statementStarted st.kind st.span :: news := hnews
  have hlimit : (opened st).context.depth + c.settings.maxDepth.toNat =
      c.settings.maxDepth.toNat := Nat.zero_add _
  rw [hlimit] at htraversal
  rw [events_traced, hevents, List.cons_append]
  exact .remark (by simp [Event.level]) (htraversal.append (.remark (level_closing st _) .done))

/-- The first segment entered is the statement, if there are any levels at all. -/
theorem head?_arrivals_traced (st : Statement) :
    (arrivals (c.traced st).2).head? =
      if c.settings.maxDepth = 0 then none else some ⟨st.kind, 1, [st.kind]⟩ := by
  have hclosing : arrivals [closing st (c.traced st).1] = [] := by
    rw [arrivals, List.filterMap_cons_none (Event.arrival?_eq_none (level_closing st _))]
    rfl
  rw [events_traced, arrivals_append, hclosing, List.append_nil]
  have hrun : (c.run st (opened st)).2.events =
      ((c.convertWithin c.settings.maxDepth.toNat (.statement st)).outcome (opened st)).2.events :=
    rfl
  rw [hrun]
  cases hlevels : c.settings.maxDepth.toNat with
  | zero =>
    have hzero : c.settings.maxDepth = 0 := UInt64.toNat_inj.1 hlevels
    rw [if_pos hzero]
    rfl
  | succ levels =>
    have hzero : c.settings.maxDepth ≠ 0 := by
      rintro h
      rw [h] at hlevels
      cases hlevels
    obtain ⟨inner, hevents, -⟩ := c.exists_events_convertWithin
      (c.traverses_convertEntered (c.traverses_convertWithin levels) (.statement st))
      (s := opened st) rfl
    rw [if_neg hzero, hevents]
    rfl

/-- What the log of a run tells of scopes and segments, however the run ends and whatever the
registry says. Scopes are opened and closed like brackets: each opening gives the number of
scopes that are open then, and each is answered by one closing of one scope. The depths of the
segments begin with one, stay within the nesting limit and never grow by more than one at a
time; each is the length of the path to the segment, which ends with the segment itself. -/
theorem traced_nested (st : Statement) :
    let events := Level.trace.select (c.traced st).2
    Nested 0 (events.filter Event.isScope) ∧
    (arrivals events).head?.map Arrival.depth =
      (if c.settings.maxDepth = 0 then none else some 1) ∧
    (∀ e ∈ arrivals events, e.depth ≤ c.settings.maxDepth.toNat) ∧
    (arrivals events).IsChain (fun e next => next.depth ≤ e.depth + 1) ∧
    ∀ e ∈ arrivals events, e.depth = e.path.length ∧ e.path.getLast? = some e.kind := by
  have htraversal := c.traversal_traced st
  have harrivals := htraversal.stepwise
  dsimp only
  rw [filter_isScope_select, arrivals_select, head?_arrivals_traced]
  refine ⟨htraversal.nested, ?_, harrivals.within, harrivals.steps, harrivals.located⟩
  split <;> rfl

end Compiler

end SqlAlgebra
