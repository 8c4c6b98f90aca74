import SqlAlgebra.Proofs.Independence

/-!
# What a run leaves in the log

A conversion adds to the log and never takes anything back. Most of what it adds are remarks
(`Event.isRemark`). The rest tells of segments that are entered, of scopes, and of errors, and
for these three a program depends on its descent: a step of its own makes remarks only, and
does not refuse a segment (`Plain`). `Program.byParts` is the induction over programs that
follows from this, with one case for all such steps.

The first use is the severity of events. While a statement is converted, an error is logged
if and only if a segment is refused, and then it is the refusal that the run ends with
(`Compiler.announces_convertWithin`). So in the log of a whole run no failure is swallowed, and
none is reported that the caller does not get to see (`Compiler.traced_errors`).
-/

namespace SqlAlgebra

open Conversion ConvertM

/-! ## The log grows -/

namespace Event

/-- Whether an event is an aside: it tells neither of an error nor of a segment or scope. -/
def isRemark (e : Event) : Bool :=
  e.level == .debug || e.level == .hidden

/-- Whether an event is an error. -/
def isError (e : Event) : Bool :=
  e.level == .error

theorem isError_of_isRemark {e : Event} (h : e.isRemark) : e.isError = false := by
  unfold isRemark at h
  unfold isError
  cases hlevel : e.level <;> simp [hlevel] at h ⊢

end Event

namespace Session

variable {s t u : Session}

/-- What is recorded comes last. -/
@[simp] theorem events_record (e : Event) (s : Session) :
    (s.record e).events = s.events ++ [e] := by
  simp [events, record]

@[simp] theorem events_modifyContext (f : Context → Context) (s : Session) :
    (s.modifyContext f).events = s.events :=
  rfl

/-- Opening a scope tells how many are open from then on. -/
theorem events_pushScope (s : Session) :
    s.pushScope.events = s.events ++ [.scopePushed s.pushScope.context.height] := by
  rw [pushScope, events_record, events_modifyContext]
  rfl

/-- Closing scopes tells of the scopes closed, if there are any. -/
theorem exists_events_rollback (mark : Nat) (s : Session) :
    ∃ counts : List Nat, (s.rollback mark).events = s.events ++ counts.map .scopesDropped := by
  unfold rollback
  split
  · exact ⟨[s.context.height - mark], by rw [events_modifyContext, events_record]; rfl⟩
  · exact ⟨[], by rw [List.map_nil, List.append_nil]⟩

/-- From the first state to the second, nothing but remarks is added to the log. -/
def Remarks (s t : Session) : Prop :=
  ∃ news, t.events = s.events ++ news ∧ ∀ e ∈ news, e.isRemark

theorem remarks_of_events_eq (h : t.events = s.events) : s.Remarks t :=
  ⟨[], by rw [h, List.append_nil], List.forall_mem_nil _⟩

theorem remarks_record {e : Event} (he : e.isRemark) (s : Session) : s.Remarks (s.record e) :=
  ⟨[e], events_record e s, List.forall_mem_singleton.2 he⟩

theorem Remarks.trans (h : s.Remarks t) (h' : t.Remarks u) : s.Remarks u := by
  obtain ⟨news, hnews, hremarks⟩ := h
  obtain ⟨news', hnews', hremarks'⟩ := h'
  refine ⟨news ++ news', by rw [hnews', hnews, List.append_assoc], ?_⟩
  exact List.forall_mem_append.2 ⟨hremarks, hremarks'⟩

/-- Looking up an owner makes remarks. -/
theorem remarks_lookedUp (owner column : String) (s : Session) :
    s.Remarks (s.lookedUp owner column) := by
  unfold lookedUp
  dsimp only
  split
  · exact remarks_record rfl s
  · exact remarks_record rfl s
  · exact (remarks_record rfl s).trans (remarks_record rfl _)

theorem remarks_seen (c : Column) (s : Session) : s.Remarks (s.seen c) := by
  unfold seen
  cases c.owner with
  | none => exact remarks_of_events_eq rfl
  | some owner => exact remarks_lookedUp owner c.name s

end Session

/-! ## Programs by their parts -/

variable {α β : Type}

/-- A step that makes remarks at most, and does not refuse a segment. -/
structure Plain (m : ConvertM α) : Prop where
  remarks : ∀ s : Session, s.Remarks (m.outcome s).2
  admits : ∀ s kind span path, (m.outcome s).1 ≠ .error (.unsupportedSegment kind span path)

/-- A step with a value from every state is plain if it makes remarks only. -/
theorem plain_of_ok {m : ConvertM α} (a : Session → α) (f : Session → Session)
    (hm : ∀ s, m.outcome s = (.ok (a s), f s)) (hf : ∀ s : Session, s.Remarks (f s)) : Plain m where
  remarks s := by rw [hm s]; exact hf s
  admits s kind span path h := by rw [hm s] at h; cases h

theorem plain_modifyContext (f : Context → Context) : Plain (modifyContext f) :=
  plain_of_ok _ (Session.modifyContext f) (fun _ => rfl) fun _ =>
    Session.remarks_of_events_eq rfl

/-- A failure is plain unless it tells where it arose, as only a refusal does. -/
theorem plain_fail {e : ConvertError} (he : ∀ path, e.under path = e) :
    Plain (throw e : ConvertM α) where
  remarks _ := Session.remarks_of_events_eq rfl
  admits s kind span path h := by
    obtain rfl : e = .unsupportedSegment kind span path := Except.error.inj h
    simpa [ConvertError.under] using he [kind]

theorem plain_named (settings : CompilerSettings) (kind : SegmentKind)
    (aliasName : Option String) (span : Span) (plan : Plan) :
    Plain (named settings kind aliasName span plan) where
  remarks s := by
    unfold named
    cases aliasName with
    | some name => exact Session.remarks_of_events_eq rfl
    | none =>
      dsimp only
      rw [outcome_bind_of_ok (outcome_context s)]
      split
      · exact Session.remarks_record rfl s
      · exact Session.remarks_of_events_eq rfl
  admits s kind' span' path h := by
    rw [result_named] at h
    cases h

/-- Induction over programs. What a program does to the log comes from its descents and its
scopes; all other steps are alike. -/
theorem Program.byParts {motive : ∀ {α : Type}, (Descent → ConvertM α) → Prop}
    (step : ∀ {α : Type} {m : ConvertM α}, Plain m → motive fun _ => m)
    (descend : ∀ x : Segment, motive fun go => go x)
    (inScope : ∀ {α : Type} {F : Descent → ConvertM α},
      Contained F → motive F → motive fun go => ConvertM.inScope (F go))
    (bind : ∀ {α β : Type} {F : Descent → ConvertM α} {G : α → Descent → ConvertM β},
      Contained F → motive F → (∀ a, motive (G a)) → motive fun go => F go >>= fun a => G a go)
    {e : Effect} {F : Descent → ConvertM α} (h : Program e F) : motive F := by
  induction h with
  | pure a =>
    exact step (plain_of_ok (fun _ => a) id (fun _ => rfl) fun _ =>
      Session.remarks_of_events_eq rfl)
  | fail error he => exact step (plain_fail he)
  | report event hlevel =>
    exact step (plain_of_ok _ (Session.record event) (fun _ => rfl)
      (Session.remarks_record (by simp [Event.isRemark, hlevel])))
  | column c => exact step (plain_of_ok _ _ (outcome_column c) (Session.remarks_seen c))
  | named settings kind aliasName span plan =>
    exact step (plain_named settings kind aliasName span plan)
  | bindAlias name _ => exact step (plain_modifyContext _)
  | descend x _ => exact descend x
  | item ordinal p =>
    exact bind (fun _ s => ⟨_, rfl⟩) (step (plain_modifyContext _)) fun _ =>
      descend (.projection p)
  | inScope hF ih => exact inScope hF.contained ih
  | bind hF _ ihF ihG => exact bind hF.contained ihF ihG

/-! ## Errors in the log -/

/-- The event that a failure is announced by when it arises. -/
def ConvertError.announcement? : ConvertError → Option Event
  | unsupportedSegment kind span path => some (.converterMissing kind span path)
  | _ => none

/-- The errors in the log of a conversion with a given result. -/
def announcements : Except ConvertError α → List Event
  | .ok _ => []
  | .error e => e.announcement?.toList

/-- Whatever the state, `m` adds to the log, and the errors it adds are those that its result
calls for. -/
def Announces (m : ConvertM α) : Prop :=
  ∀ s, ∃ news, (m.outcome s).2.events = s.events ++ news ∧
    news.filter Event.isError = announcements (m.outcome s).1

theorem filter_isError_of_isRemark {news : List Event} (h : ∀ e ∈ news, e.isRemark) :
    news.filter Event.isError = [] := by
  rw [List.filter_eq_nil_iff]
  intro e he
  simp [Event.isError_of_isRemark (h e he)]

/-- A plain step announces nothing. -/
theorem announces_of_plain {m : ConvertM α} (h : Plain m) : Announces m := by
  intro s
  obtain ⟨news, hnews, hremarks⟩ := h.remarks s
  refine ⟨news, hnews, ?_⟩
  rw [filter_isError_of_isRemark hremarks]
  rcases hr : (m.outcome s).1 with e | a
  · cases e with
    | unsupportedSegment kind span path => exact absurd hr (h.admits s kind span path)
    | _ => rfl
  · rfl

/-- A refusal announces itself. -/
theorem announces_refuse (x : Segment) : Announces (refuse x) := by
  intro s
  exact ⟨[.converterMissing x.kind x.span s.context.path], Session.events_record _ s, rfl⟩

/-- A sequence announces what the step it fails at announces. -/
theorem announces_bind {m : ConvertM α} {f : α → ConvertM β} (hm : Announces m)
    (hf : ∀ a, Announces (f a)) : Announces (m >>= f) := by
  intro s
  obtain ⟨news, hnews, herrors⟩ := hm s
  rcases hr : m.outcome s with ⟨e | a, t⟩
  · rw [hr] at hnews herrors
    rw [outcome_bind_of_error hr]
    exact ⟨news, hnews, herrors⟩
  · rw [hr] at hnews herrors
    rw [outcome_bind_of_ok hr]
    obtain ⟨news', hnews', herrors'⟩ := hf a t
    refine ⟨news ++ news', by rw [hnews', hnews, List.append_assoc], ?_⟩
    have hnone : news.filter Event.isError = [] := herrors
    rw [List.filter_append, hnone, List.nil_append, herrors']

theorem announces_entering {kind : SegmentKind} {m : ConvertM α} (hm : Announces m) :
    Announces (entering kind m) := by
  intro s
  rw [outcome_entering]
  exact hm (s.modifyContext (.enter kind))

theorem announces_inScope {m : ConvertM α} (hm : Announces m) : Announces (inScope m) := by
  intro s
  obtain ⟨news, hnews, herrors⟩ := hm s.pushScope
  obtain ⟨counts, hcounts⟩ :=
    (m.outcome s.pushScope).2.exists_events_rollback s.context.height
  rw [outcome_inScope]
  refine ⟨.scopePushed s.pushScope.context.height :: news ++ counts.map .scopesDropped, ?_, ?_⟩
  · rw [hcounts, hnews, s.events_pushScope]
    simp
  · have hdropped : (counts.map Event.scopesDropped).filter Event.isError = [] := by
      simp [List.filter_eq_nil_iff, Event.isError, Event.level]
    rw [List.filter_append, hdropped, List.append_nil, List.filter_cons_of_neg, herrors]
    simp [Event.isError, Event.level]

/-- A program announces its errors if the descent does. -/
theorem Program.announces {e : Effect} {F : Descent → ConvertM α} (h : Program e F)
    {go : Descent} (hgo : ∀ x, Announces (go x)) : Announces (F go) :=
  h.byParts (motive := fun F => Announces (F go)) announces_of_plain hgo
    (fun _ => announces_inScope) fun _ => announces_bind

theorem isError_entered (x : Segment) (depth : Nat) (path : List SegmentKind) :
    (entered x depth path).isError = false := by
  cases x <;> rfl

namespace Compiler

variable (c : Compiler)

/-- Whatever the registry says, a conversion logs an error exactly if it ends with the refusal
of a segment. -/
theorem announces_convertWithin : ∀ (levels : Nat) (x : Segment),
    Announces (c.convertWithin levels x)
  | 0, _ => announces_of_plain (plain_fail fun _ => rfl)
  | levels + 1, x => by
    have hentered : Announces (c.convertEntered (c.convertWithin levels) x) := by
      rcases convertEntered_cases c x with ⟨-, hrefused⟩ | hprogram
      · rw [hrefused]
        exact announces_refuse x
      · exact hprogram.announces (announces_convertWithin levels)
    refine announces_bind (fun s => ⟨[], (List.append_nil _).symm, rfl⟩) fun here => ?_
    refine announces_bind (fun s => ?_) fun _ => announces_entering hentered
    refine ⟨[entered x (here.depth + 1) (here.enter x.kind).path], Session.events_record _ s, ?_⟩
    rw [List.filter_cons_of_neg (by simp [isError_entered])]
    rfl

/-! ## Runs of whole statements -/

/-- The state in which a run begins. -/
def opened (st : Statement) : Session :=
  Session.record (.statementStarted st.kind st.span) {}

/-- The events before a run make no difference to its result. -/
theorem traced_fst (st : Statement) : (c.traced st).1 = present st (c.tryConvert st) := by
  have hrun : (c.run st (opened st)).1 = c.tryConvert st := convert_congr rfl
  rw [← hrun]
  rfl

/-- The log of a statement closes with its outcome. -/
theorem events_traced (st : Statement) :
    (c.traced st).2 = (c.run st (opened st)).2.events ++ [closing st (c.traced st).1] :=
  Session.events_record _ _

/-- A run is announced, and closes with its outcome; in between, no error is logged but the
refusal it ends with. -/
theorem exists_events_traced (st : Statement) :
    ∃ news, (c.traced st).2 = .statementStarted st.kind st.span ::
        (news ++ [closing st (c.traced st).1]) ∧
      news.filter Event.isError = announcements (c.tryConvert st) := by
  obtain ⟨news, hnews, herrors⟩ := c.announces_convertWithin
    (c.levelsLeft {}) (.statement st) (opened st)
  refine ⟨news, ?_, ?_⟩
  · rw [events_traced]
    exact congrArg (· ++ [closing st (c.traced st).1]) hnews
  · have hresult : (c.run st (opened st)).1 = c.tryConvert st := convert_congr rfl
    rw [← hresult]
    exact herrors

end Compiler

/-- The errors of a log that come from one part of the compiler. -/
def errorsFrom (source : String) (events : List Event) : List Event :=
  events.filter fun e => e.isError && e.source == source

theorem errorsFrom_eq (source : String) (events : List Event) :
    errorsFrom source events = (events.filter Event.isError).filter (·.source == source) := by
  rw [errorsFrom, List.filter_filter]
  simp only [Bool.and_comm]

theorem errorsFrom_append (source : String) (events events' : List Event) :
    errorsFrom source (events ++ events') =
      errorsFrom source events ++ errorsFrom source events' :=
  List.filter_append _ _

/-- Errors are shown at every level. -/
theorem errorsFrom_select (level : Level) (source : String) (events : List Event) :
    errorsFrom source (level.select events) = errorsFrom source events := by
  rw [errorsFrom, errorsFrom, Level.select, List.filter_filter]
  refine List.filter_congr fun e _ => ?_
  cases herror : e.isError with
  | false => rfl
  | true =>
    have hlevel : e.level = .error := by simpa [Event.isError] using herror
    simp [hlevel, Level.rank]

/-- Refusals are logged by the registry, and are its only errors. -/
theorem errorsFrom_announcements (r : Except ConvertError α) :
    errorsFrom "sqlfed::registry" (announcements r) = announcements r ∧
      errorsFrom "sqlfed::converter" (announcements r) = [] := by
  rcases r with e | a
  · cases e with
    | unsupportedSegment kind span path =>
      simp [announcements, ConvertError.announcement?, errorsFrom, Event.isError, Event.level,
        Event.source]
    | _ => exact ⟨rfl, rfl⟩
  · exact ⟨rfl, rfl⟩

/-- The converters log an error at the end, if they are to blame for the failure. -/
theorem errorsFrom_closing (st : Statement) (r : Except ConvertError Plan) :
    errorsFrom "sqlfed::registry" [Compiler.closing st r] = [] ∧
      errorsFrom "sqlfed::converter" [Compiler.closing st r] =
        match r with
        | .ok _ => []
        | .error e => if e.isFatal then [Compiler.closing st r] else [] := by
  rcases r with e | plan
  · cases hfatal : e.isFatal <;>
      simp [errorsFrom, Compiler.closing, Event.isError, Event.level, Event.source, hfatal]
  · exact ⟨rfl, rfl⟩

/-- The failures that converters are to blame for are reported as internal. -/
theorem ConvertError.isInternal_toReport (e : ConvertError) :
    e.toReport.isInternal = e.isFatal := by
  cases e <;> rfl

/-- The internal failures are reported under three codes. -/
theorem ConvertError.number_toReport (e : ConvertError) :
    e.toReport.isInternal ↔ e.toReport.code.number ∈ [5001, 5002, 5004] := by
  rw [isInternal_toReport]
  cases e <;> simp [toReport, isFatal, ErrorCode.number]

/-- What is shown of two logs is shown of each. -/
theorem select_append (level : Level) (events events' : List Event) :
    level.select (events ++ events') = level.select events ++ level.select events' :=
  List.filter_append _ _

/-- At the level of traces the outcome is always shown. -/
theorem select_closing (st : Statement) (r : Except ConvertError Plan) :
    Level.trace.select [Compiler.closing st r] = [Compiler.closing st r] := by
  rcases r with e | plan
  · cases hfatal : e.isFatal <;>
      simp [Level.select, Compiler.closing, Event.level, Level.rank, hfatal]
  · rfl

namespace Compiler

variable (c : Compiler)

/-- The log of a run, whatever the registry. It begins with the statement and ends with the
outcome. The registry logs an error exactly if the run fails for want of a converter, and it is
that failure. The converters log an error exactly if the failure is reported as internal, and
it is the outcome. -/
theorem traced_errors (st : Statement) :
    (∃ between, Level.trace.select (c.traced st).2 = .statementStarted st.kind st.span ::
      (between ++ [closing st (present st (c.tryConvert st))])) ∧
    errorsFrom "sqlfed::registry" (Level.trace.select (c.traced st).2) =
      announcements (c.tryConvert st) ∧
    errorsFrom "sqlfed::converter" (Level.trace.select (c.traced st).2) =
      (match c.compile st with
      | .ok _ => []
      | .error report =>
        if report.isInternal then [closing st (present st (c.tryConvert st))] else []) ∧
    ∀ report, c.compile st = .error report →
      (report.isInternal ↔ report.code.number ∈ [5001, 5002, 5004]) := by
  obtain ⟨news, hevents, herrors⟩ := c.exists_events_traced st
  rw [traced_fst] at hevents
  have hcompile : c.compile st = (present st (c.tryConvert st)).mapError ConvertError.toReport := by
    rw [compile, traced_fst]
  have herrorsFrom : ∀ source, errorsFrom source (Level.trace.select (c.traced st).2) =
      errorsFrom source (announcements (c.tryConvert st)) ++
        errorsFrom source [closing st (present st (c.tryConvert st))] := by
    intro source
    have hstarted : errorsFrom source [.statementStarted st.kind st.span] = [] := rfl
    have hnews : errorsFrom source news = errorsFrom source (announcements (c.tryConvert st)) := by
      rw [errorsFrom_eq, errorsFrom_eq, ← herrors]
      simp only [List.filter_filter, Bool.and_self]
    rw [errorsFrom_select, hevents, ← List.singleton_append, errorsFrom_append,
      errorsFrom_append, hstarted, List.nil_append, hnews]
  refine ⟨?_, ?_, ?_, fun report hreport => ?_⟩
  · refine ⟨Level.trace.select news, ?_⟩
    rw [hevents, ← List.singleton_append, select_append, select_append, select_closing]
    rfl
  · rw [herrorsFrom, (errorsFrom_announcements _).1, (errorsFrom_closing st _).1, List.append_nil]
  · rw [herrorsFrom, (errorsFrom_announcements _).2, (errorsFrom_closing st _).2, List.nil_append,
      hcompile]
    rcases present st (c.tryConvert st) with e | plan
    · change (if e.isFatal then _ else _) = if e.toReport.isInternal then _ else _
      rw [ConvertError.isInternal_toReport]
    · rfl
  · rw [hcompile] at hreport
    rcases hr : present st (c.tryConvert st) with e | plan <;> rw [hr] at hreport
    · obtain rfl : e.toReport = report := Except.error.inj hreport
      exact e.number_toReport
    · cases hreport

/-- `DELETE FROM t WHERE ? AND NOT ?`. -/
def deleteNegated : Statement :=
  .delete ⟨.simple { name := "t" },
    some ⟨.binary (.parameter 0 .zero) "AND" (.negation (.parameter 1 .zero) ⟨26, 30⟩) .zero,
      .zero⟩,
    none, none, .zero⟩

/-- Without NOT, the registry logs the refusal of the second operand, and no other error. As the
refusal is reported as internal, the converters log it once more at the end of the run. -/
theorem traced_errors_deleteNegated :
    let c : Compiler := { registry := Registry.standard.without .negation }
    let path : List SegmentKind := [.deleteStatement, .binaryOperation, .negation]
    errorsFrom "sqlfed::registry" (Level.trace.select (c.traced deleteNegated).2) =
      [.converterMissing .negation ⟨26, 30⟩ path] ∧
    errorsFrom "sqlfed::converter" (Level.trace.select (c.traced deleteNegated).2) =
      [.statementFailed .deleteStatement (.unsupportedSegment .negation ⟨26, 30⟩ path)] := by
  intro c path
  obtain ⟨-, hregistry, hconverter, -⟩ := traced_errors c deleteNegated
  exact ⟨hregistry.trans rfl, hconverter.trans rfl⟩

end Compiler

end SqlAlgebra
