import SqlAlgebra.Proofs.Lexical
import SqlAlgebra.Proofs.Restoration

/-!
# Looking up the owners of columns

A conversion looks up the owner of a column in a stack of scopes, which are opened and closed
as it goes along and filled by the tables it meets. The stack and the text are tied by
`Surroundings.Fits`: the innermost scopes hold the names that the levels around a place
expose. Where surroundings fit, the search gives the answer that is right there
(`Surroundings.Fits.resolves`).

`Looks around m os Q` says that `m`, started where `around` fits, looks up the owners of `os`,
or the first few of them if it fails, and that with a value `a` it ends where surroundings fit
that `Q a` admits. The rules of this judgement follow the ways in which a conversion is put
together: a sequence looks up the owners of its parts one after the other (`looks_bind`), and
a scope of its own is a level of its own (`looks_inScope`).
-/

namespace SqlAlgebra

open Conversion ConvertM

/-! ## Scopes and surroundings -/

/-- A scope binds the names that are exposed by its aliases. -/
theorem Scope.binds_iff (scope : Scope) (name : String) :
    scope.binds name ↔ Exposed scope.aliases name := by
  simp [binds, Exposed]

namespace Surroundings

variable {around : Surroundings} {c : Context}

/-- The innermost scopes expose the names of the levels, and there are no others if there are
no further levels. -/
def Fits (around : Surroundings) (c : Context) : Prop :=
  ∃ rest, c.scopes.map Scope.aliases = around.levels ++ rest ∧ (around.closed → rest = [])

/-- Nothing is said about a context that may be anywhere. -/
theorem fits_anywhere (c : Context) : anywhere.Fits c :=
  ⟨_, rfl, fun h => by cases h⟩

/-- Whether surroundings fit is a matter of the names in the scopes. -/
theorem Fits.congr {c' : Context} (h : around.Fits c)
    (hscopes : c'.scopes.map Scope.aliases = c.scopes.map Scope.aliases) : around.Fits c' := by
  obtain ⟨rest, hrest, hclosed⟩ := h
  exact ⟨rest, hscopes.trans hrest, hclosed⟩

/-- A scope that is opened is a further level. -/
theorem Fits.pushScope (h : around.Fits c) : around.opened.Fits c.pushScope := by
  obtain ⟨rest, hrest, hclosed⟩ := h
  refine ⟨rest, ?_, hclosed⟩
  simp [Context.pushScope, opened, hrest]

/-- A name that is bound is exposed by the innermost level. Without a known level, either there is
no scope at all or nothing is said about any. -/
theorem Fits.bindAlias (h : around.Fits c) (name : String) :
    (around.exposing [name]).Fits (c.bindAlias name) := by
  obtain ⟨rest, hrest, hclosed⟩ := h
  obtain ⟨depth, trail, scopes⟩ := c
  obtain ⟨_ | ⟨level, outer⟩, closed⟩ := around
  · refine ⟨_, (List.nil_append _).symm, fun h => ?_⟩
    have hnil : scopes.map Scope.aliases = [] := hrest.trans (hclosed h)
    rw [List.map_eq_nil_iff.1 hnil]
    rfl
  · cases scopes with
    | nil => cases hrest
    | cons scope scopes =>
      obtain ⟨rfl, houter⟩ := List.cons.inj hrest
      refine ⟨rest, ?_, hclosed⟩
      simp [Context.bindAlias, Context.modifyScope, exposing, houter]

theorem Fits.setOrdinal (h : around.Fits c) (ordinal : Nat) :
    around.Fits (c.setOrdinal ordinal) := by
  refine h.congr ?_
  obtain ⟨depth, trail, _ | ⟨scope, scopes⟩⟩ := c <;> rfl

/-- The search finds a depth if the nearest scope with the name lies there. -/
theorem qualifierDepth?_eq_some_iff (c : Context) (owner : String) (d : Nat) :
    c.qualifierDepth? owner = some d ↔
      IsNearest ⟨c.scopes.map Scope.aliases, true⟩ owner d := by
  rw [Context.qualifierDepth?, List.findIdx?_eq_some_iff_getElem]
  simp only [IsNearest, List.getElem?_map, Option.map_eq_some_iff, List.getElem?_eq_some_iff]
  constructor
  · rintro ⟨hd, hbinds, hbefore⟩
    refine ⟨⟨_, ⟨_, ⟨hd, rfl⟩, rfl⟩, (Scope.binds_iff _ _).1 hbinds⟩, ?_⟩
    rintro i hi _ ⟨_, ⟨_, rfl⟩, rfl⟩ hexposed
    exact hbefore i hi ((Scope.binds_iff _ _).2 hexposed)
  · rintro ⟨⟨_, ⟨_, ⟨hd, rfl⟩, rfl⟩, hexposed⟩, hbefore⟩
    refine ⟨hd, (Scope.binds_iff _ _).2 hexposed, fun i hi hbinds => ?_⟩
    exact hbefore i hi _ ⟨_, ⟨Nat.lt_trans hi hd, rfl⟩, rfl⟩ ((Scope.binds_iff _ _).1 hbinds)

/-- The search finds nothing if no scope has the name. -/
theorem qualifierDepth?_eq_none_iff (c : Context) (owner : String) :
    c.qualifierDepth? owner = none ↔
      ∀ names ∈ c.scopes.map Scope.aliases, ¬ Exposed names owner := by
  rw [Context.qualifierDepth?, List.findIdx?_eq_none_iff]
  simp only [List.forall_mem_map, ← Scope.binds_iff, Bool.not_eq_true]

/-- Which level is the nearest with a name does not depend on the levels further out. -/
theorem isNearest_congr {around' : Surroundings} {d : Nat}
    (h : ∀ i ≤ d, around.levels[i]? = around'.levels[i]?) (owner : String) :
    around.IsNearest owner d ↔ around'.IsNearest owner d := by
  unfold IsNearest
  rw [h d (Nat.le_refl d)]
  refine and_congr_right fun _ => forall₂_congr fun i hi => ?_
  rw [h i (Nat.le_of_lt hi)]

/-- The search through the scopes gives the right answer. -/
theorem Fits.resolves (h : around.Fits c) (owner : String) :
    around.Resolves owner (c.qualifierDepth? owner) := by
  obtain ⟨rest, hrest, hclosed⟩ := h
  refine ⟨fun d hd => ?_, fun hc => ?_⟩
  · rw [qualifierDepth?_eq_some_iff]
    refine isNearest_congr (fun i hi => ?_) owner
    rw [hrest]
    rcases hd with hc | hd
    · rw [hclosed hc, List.append_nil]
    · exact List.getElem?_append_left (Nat.lt_of_le_of_lt hi hd)
  · rw [qualifierDepth?_eq_none_iff, hrest, hclosed hc, List.append_nil]

end Surroundings

/-! ## Look-ups -/

/-- The search for the owner of a column, and how many levels out it was found. -/
structure Lookup where
  owner : String
  column : String
  depth : Option Nat
deriving DecidableEq, Repr

/-- The look-up that an event tells of. -/
def Event.lookup? : Event → Option Lookup
  | ownerLookedUp owner column depth => some ⟨owner, column, depth⟩
  | _ => none

/-- A look-up of the owner of a column, with the right answer for its surroundings. -/
structure Occurrence.Answered (o : Occurrence) (l : Lookup) : Prop where
  owner : l.owner = o.owner
  column : l.column = o.column
  depth : o.around.Resolves o.owner l.depth

namespace Session

variable {s t u : Session} {os os' : List Occurrence}

/-- The look-ups so far, in the order they were made. -/
def lookups (s : Session) : List Lookup :=
  s.events.filterMap Event.lookup?

theorem lookups_record (e : Event) (s : Session) :
    (s.record e).lookups = s.lookups ++ e.lookup?.toList := by
  unfold lookups events record
  rw [List.reverse_cons, List.filterMap_append]
  cases h : e.lookup? <;> simp [h]

/-- Looking up an owner is recorded with the depth that was found. -/
theorem lookups_lookedUp (owner column : String) (s : Session) :
    (s.lookedUp owner column).lookups =
      s.lookups ++ [⟨owner, column, s.context.qualifierDepth? owner⟩] := by
  unfold lookedUp
  dsimp only
  split
  · rw [lookups_record]
    rfl
  · rw [lookups_record]
    rfl
  · rw [lookups_record, lookups_record, List.append_assoc]
    rfl

theorem lookups_pushScope (s : Session) : s.pushScope.lookups = s.lookups := by
  unfold pushScope
  rw [lookups_record]
  exact List.append_nil _

theorem lookups_rollback (mark : Nat) (s : Session) : (s.rollback mark).lookups = s.lookups := by
  unfold rollback
  split
  · exact (lookups_record _ s).trans (List.append_nil _)
  · rfl

/-- From the first state to the second, the owners of some columns are looked up. -/
def LooksUp (s : Session) (os : List Occurrence) (t : Session) : Prop :=
  ∃ found, t.lookups = s.lookups ++ found ∧ List.Forall₂ Occurrence.Answered os found

theorem looksUp_of_eq (h : t.lookups = s.lookups) : s.LooksUp [] t :=
  ⟨[], h.trans (List.append_nil _).symm, .nil⟩

/-- What is looked up in two stretches is looked up in one. -/
theorem LooksUp.trans (h : s.LooksUp os t) (h' : t.LooksUp os' u) :
    s.LooksUp (os ++ os') u := by
  obtain ⟨found, hfound, hanswers⟩ := h
  obtain ⟨found', hfound', hanswers'⟩ := h'
  refine ⟨found ++ found', ?_, List.rel_append hanswers hanswers'⟩
  rw [hfound', hfound, List.append_assoc]

/-- What is looked up is a matter of the look-ups recorded. -/
theorem LooksUp.congr {s' t' : Session} (h : s.LooksUp os t) (hs : s'.lookups = s.lookups)
    (ht : t'.lookups = t.lookups) : s'.LooksUp os t' := by
  obtain ⟨found, hfound, hanswers⟩ := h
  exact ⟨found, by rw [ht, hfound, hs], hanswers⟩

end Session

/-! ## Conversions that look up owners -/

variable {α β : Type}

/-- Started where `around` fits, `m` looks up the owners of `os`, the first few if it fails. If
it ends with a value, it ends where surroundings fit that `Q` admits. -/
structure Looks (around : Surroundings) (m : ConvertM α) (os : List Occurrence)
    (Q : α → Surroundings → Prop) : Prop where
  ok : ∀ {s t a}, around.Fits s.context → m.outcome s = (.ok a, t) →
    s.LooksUp os t ∧ ∃ after, Q a after ∧ after.Fits t.context
  error : ∀ {s t e}, around.Fits s.context → m.outcome s = (.error e, t) →
    ∃ seen, seen <+: os ∧ s.LooksUp seen t

/-- The same surroundings as before. -/
def Same (around : Surroundings) (_ : α) (after : Surroundings) : Prop :=
  after = around

/-- Something, in the same surroundings as before. -/
def Present (around : Surroundings) (o : Option α) (after : Surroundings) : Prop :=
  o.isSome ∧ after = around

section Rules

variable {around : Surroundings} {m : ConvertM α} {os os' : List Occurrence}
  {P Q : α → Surroundings → Prop}

theorem looks_pure {a : α} (ha : Q a around) : Looks around (pure a) [] Q where
  ok hs h := by
    obtain ⟨rfl, rfl⟩ := outcome_pure_eq_ok h
    exact ⟨Session.looksUp_of_eq rfl, around, ha, hs⟩
  error _ h := by cases h

theorem looks_throw (e : ConvertError) : Looks around (throw e : ConvertM α) os Q where
  ok _ h := by cases h
  error _ h := by
    obtain ⟨-, rfl⟩ := Prod.mk.inj h
    exact ⟨[], List.nil_prefix, Session.looksUp_of_eq rfl⟩

/-- What is known of the values and of the surroundings may be weakened. -/
theorem Looks.mono (h : Looks around m os P) (hPQ : ∀ a after, P a after → Q a after) :
    Looks around m os Q where
  ok hs hm := by
    obtain ⟨hlooks, after, ha, hfits⟩ := h.ok hs hm
    exact ⟨hlooks, after, hPQ _ _ ha, hfits⟩
  error := h.error

theorem Looks.congr (h : Looks around m os Q) (hos : os' = os) : Looks around m os' Q := by
  rwa [hos]

/-- A sequence looks up the owners of its first step and then those of its second, where the first
has left the surroundings. -/
theorem looks_bind {f : α → ConvertM β} {R : β → Surroundings → Prop}
    (hm : Looks around m os Q) (hf : ∀ a after, Q a after → Looks after (f a) os' R) :
    Looks around (m >>= f) (os ++ os') R where
  ok hs h := by
    obtain ⟨a, u, ha, hb⟩ := outcome_bind_eq_ok h
    obtain ⟨hlooks, after, hQ, hu⟩ := hm.ok hs ha
    obtain ⟨hlooks', hend⟩ := (hf a after hQ).ok hu hb
    exact ⟨hlooks.trans hlooks', hend⟩
  error {s t e} hs h := by
    rcases hr : m.outcome s with ⟨e' | a, u⟩
    · rw [outcome_bind_of_error hr] at h
      obtain ⟨-, rfl⟩ := Prod.mk.inj h
      obtain ⟨seen, hseen, hlooks⟩ := hm.error hs hr
      exact ⟨seen, hseen.trans (List.prefix_append _ _), hlooks⟩
    · rw [outcome_bind_of_ok hr] at h
      obtain ⟨hlooks, after, hQ, hu⟩ := hm.ok hs hr
      obtain ⟨seen, hseen, hlooks'⟩ := (hf a after hQ).error hu h
      exact ⟨os ++ seen, (List.prefix_append_right_inj os).2 hseen, hlooks.trans hlooks'⟩

/-- A first step after which the surroundings are the same. -/
theorem looks_then {f : α → ConvertM β} {R : β → Surroundings → Prop}
    (hm : Looks around m os (Same around)) (hf : ∀ a, Looks around (f a) os' R) :
    Looks around (m >>= f) (os ++ os') R :=
  looks_bind hm fun a after h => by
    rw [show after = around from h]
    exact hf a

/-- A first step that looks up nothing. -/
theorem looks_step {f : α → ConvertM β} {R : β → Surroundings → Prop}
    (hm : Looks around m [] (Same around)) (hf : ∀ a, Looks around (f a) os R) :
    Looks around (m >>= f) os R :=
  looks_then hm hf

/-- A part that does not convert to nothing, and what follows it. -/
theorem looks_part {m : ConvertM (Option α)} {f : Option α → ConvertM β}
    {R : β → Surroundings → Prop} (hm : Looks around m os (Present around))
    (hf : ∀ a, Looks around (f (some a)) os' R) : Looks around (m >>= f) (os ++ os') R := by
  refine looks_bind hm ?_
  rintro (_ | a) after ⟨hsome, rfl⟩
  · cases hsome
  · exact hf a

/-- A part that does not convert to nothing, and a last step that looks up nothing. -/
theorem looks_lastPart {m : ConvertM (Option α)} {f : Option α → ConvertM β}
    {R : β → Surroundings → Prop} (hm : Looks around m os (Present around))
    (hf : ∀ a, Looks around (f (some a)) [] R) : Looks around (m >>= f) os R :=
  (looks_part hm hf).congr (List.append_nil os).symm

/-- A last step that looks up nothing. -/
theorem looks_last {f : α → ConvertM β} {R : β → Surroundings → Prop}
    (hm : Looks around m os Q) (hf : ∀ a after, Q a after → Looks after (f a) [] R) :
    Looks around (m >>= f) os R :=
  (looks_bind hm hf).congr (List.append_nil os).symm

theorem looks_map {f : α → β} {R : β → Surroundings → Prop} (hm : Looks around m os Q)
    (hf : ∀ a after, Q a after → R (f a) after) : Looks around (f <$> m) os R := by
  rw [map_eq_pure_bind]
  exact looks_last hm fun a after ha => looks_pure (hf a after ha)

theorem Looks.map (f : α → β) (hm : Looks around m os (Same around)) :
    Looks around (f <$> m) os (Same around) :=
  looks_map hm fun _ _ hsame => hsame

theorem looks_report {e : Event} (he : e.lookup? = none) :
    Looks around (report e) [] (Same around) where
  ok {s t a} hs h := by
    obtain ⟨-, rfl⟩ := Prod.mk.inj h
    refine ⟨Session.looksUp_of_eq ?_, around, rfl, hs⟩
    rw [Session.lookups_record, he, Option.toList_none, List.append_nil]
  error _ h := by cases h

theorem looks_context : Looks around context [] (Same around) where
  ok hs h := by
    obtain ⟨-, rfl⟩ := Prod.mk.inj h
    exact ⟨Session.looksUp_of_eq rfl, around, rfl, hs⟩
  error _ h := by cases h

/-- A column looks up its owner, if it has one. -/
theorem looks_column (c : Column) :
    Looks around (column c) (c.occurrences around) (Same around) where
  ok {s t a} hs h := by
    rw [outcome_column] at h
    obtain ⟨-, rfl⟩ := Prod.mk.inj h
    refine ⟨?_, around, rfl, by rwa [s.context_seen c]⟩
    unfold Session.seen Column.occurrences
    cases c.owner with
    | none => exact Session.looksUp_of_eq rfl
    | some owner =>
      exact ⟨_, s.lookups_lookedUp owner c.name, .cons ⟨rfl, rfl, hs.resolves owner⟩ .nil⟩
  error {s t e} _ h := by
    rw [outcome_column] at h
    cases h

/-- A change of the context takes fitting surroundings to fitting ones. -/
theorem looks_modifyContext {f : Context → Context} {after : Surroundings}
    (hf : ∀ c, around.Fits c → after.Fits (f c)) :
    Looks around (modifyContext f) [] fun _ reached => reached = after where
  ok hs h := by
    obtain ⟨-, rfl⟩ := Prod.mk.inj h
    exact ⟨Session.looksUp_of_eq rfl, after, rfl, hf _ hs⟩
  error _ h := by cases h

theorem looks_setOrdinal (ordinal : Nat) :
    Looks around (modifyContext (.setOrdinal ordinal)) [] (Same around) :=
  looks_modifyContext fun _ hs => hs.setOrdinal ordinal

/-- What follows the binding of a name knows it. -/
theorem looks_binding {name : String} {f : Unit → ConvertM β} {R : β → Surroundings → Prop}
    (hf : Looks (around.exposing [name]) (f ()) os R) :
    Looks around (modifyContext (.bindAlias name) >>= f) os R :=
  looks_bind (looks_modifyContext fun _ hs => hs.bindAlias name) fun _ after hafter => by
    rw [hafter]
    exact hf

/-- Inside a segment the same owners are looked up as around it. -/
theorem looks_entering {kind : SegmentKind} (h : Looks around m os Q) :
    Looks around (entering kind m) os Q where
  ok {s t a} hs hm := by
    rw [outcome_entering] at hm
    obtain ⟨ha, rfl⟩ := Prod.mk.inj hm
    obtain ⟨hlooks, after, hQ, hfits⟩ :=
      h.ok (s := s.modifyContext (.enter kind)) (hs.congr rfl) (Prod.ext ha rfl)
    exact ⟨hlooks, after, hQ, hfits.congr rfl⟩
  error {s t e} hs hm := by
    rw [outcome_entering] at hm
    obtain ⟨he, rfl⟩ := Prod.mk.inj hm
    obtain ⟨seen, hseen, hlooks⟩ :=
      h.error (s := s.modifyContext (.enter kind)) (hs.congr rfl) (Prod.ext he rfl)
    exact ⟨seen, hseen, hlooks⟩

/-- A scope of its own is a level of its own. Where it ends is left open. -/
theorem looks_inScope {P : α → Prop} (h : Looks around.opened m os fun a _ => P a) :
    Looks around (inScope m) os fun a _ => P a where
  ok {s t a} hs hm := by
    rw [outcome_inScope] at hm
    obtain ⟨ha, rfl⟩ := Prod.mk.inj hm
    obtain ⟨hlooks, -, hP, -⟩ := h.ok (s := s.pushScope) hs.pushScope (Prod.ext ha rfl)
    exact ⟨hlooks.congr s.lookups_pushScope.symm (Session.lookups_rollback _ _),
      .anywhere, hP, Surroundings.fits_anywhere _⟩
  error {s t e} hs hm := by
    rw [outcome_inScope] at hm
    obtain ⟨he, rfl⟩ := Prod.mk.inj hm
    obtain ⟨seen, hseen, hlooks⟩ := h.error (s := s.pushScope) hs.pushScope (Prod.ext he rfl)
    exact ⟨seen, hseen, hlooks.congr s.lookups_pushScope.symm (Session.lookups_rollback _ _)⟩

/-- What holds anywhere holds in all surroundings. -/
theorem Looks.of_anywhere (h : Looks .anywhere m os Q) : Looks around m os Q where
  ok _ ha := h.ok (Surroundings.fits_anywhere _) ha
  error _ he := h.error (Surroundings.fits_anywhere _) he

/-- A conversion that leaves the context as it was leaves the surroundings as they were. -/
theorem Looks.of_keeps {m : ConvertM (Option α)} (h : Looks around m os fun o _ => o.isSome)
    (hm : Keeps .quiet m) : Looks around m os (Present around) where
  ok {s t a} hs ha := by
    obtain ⟨hlooks, -, hsome, -⟩ := h.ok hs ha
    have hcontext : (m.outcome s).2.context = s.context := hm s
    rw [ha] at hcontext
    exact ⟨hlooks, around, ⟨hsome, rfl⟩, by rwa [hcontext]⟩
  error := h.error

end Rules

end SqlAlgebra
