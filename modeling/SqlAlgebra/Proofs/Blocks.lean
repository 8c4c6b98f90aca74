import SqlAlgebra.Conversion.Script
import SqlAlgebra.Proofs.Restoration

/-!
# Blocks of steps

A script may run steps in a block, a scope of its own, and roll back to checkpoints on the
way. A checkpoint is no more than a count of open scopes: one that was taken outside the block
would close the scope of the block and let later steps reach the scopes below. A script is
bracketed (`Step.bracketedAll`) if a block rolls back to its own checkpoints only, those of the
blocks inside it included.

Whatever runs in a block of a bracketed script, the scopes below it are out of reach. The
invariant has two parts: the context lies above the one that the block was opened on
(`Context.Above`), and so does every checkpoint that the block may still roll back to
(`Checkpoints.Beyond`). One step keeps both (`Step.completes_run`), hence so do all
(`Step.completes_runAll`), and closing the block gives back what was there before it
(`Step.context_inScope_runAll`).
-/

namespace SqlAlgebra

open Conversion ConvertM

/-! ## Above a context -/

/-- `c` lies above `base`: it is a context inside scopes that were opened on `base`. -/
structure Context.Above (base c : Context) : Prop where
  depth : c.depth = base.depth
  trail : c.trail = base.trail
  scopes : ∃ own, own ≠ [] ∧ c.scopes = own ++ base.scopes

namespace Context

variable {base c : Context}

/-- With a further scope a context lies above itself. -/
theorem above_pushScope (base : Context) : base.Above base.pushScope :=
  ⟨rfl, rfl, [{}], List.cons_ne_nil _ _, rfl⟩

namespace Above

theorem height_lt (h : base.Above c) : base.height < c.height := by
  obtain ⟨own, hown, hscopes⟩ := h.scopes
  have hpos := List.length_pos_iff.2 hown
  rw [height, height, hscopes, List.length_append]
  omega

theorem pushScope (h : base.Above c) : base.Above c.pushScope := by
  obtain ⟨own, -, hscopes⟩ := h.scopes
  refine ⟨h.depth, h.trail, {} :: own, List.cons_ne_nil _ _, ?_⟩
  rw [Context.pushScope, hscopes, List.cons_append]

/-- The innermost scope is one of those above `base`. -/
theorem modifyScope (h : base.Above c) (f : Scope → Scope) : base.Above (c.modifyScope f) := by
  obtain ⟨own, hown, hscopes⟩ := h.scopes
  cases own with
  | nil => exact absurd rfl hown
  | cons scope own =>
    refine ⟨h.depth, h.trail, f scope :: own, List.cons_ne_nil _ _, ?_⟩
    rw [Context.modifyScope, hscopes]
    rfl

/-- Closing scopes down to a count that `base` does not reach leaves one of those above it. -/
theorem dropScopes (h : base.Above c) {mark : Nat} (hmark : base.height < mark) :
    base.Above (c.dropScopes mark) := by
  obtain ⟨own, hown, hscopes⟩ := h.scopes
  have hpos := List.length_pos_iff.2 hown
  have hle : (own ++ base.scopes).length - mark ≤ own.length := by
    rw [List.length_append]
    rw [height] at hmark
    omega
  refine ⟨h.depth, h.trail, own.drop ((own ++ base.scopes).length - mark), ?_, ?_⟩
  · rw [← List.length_pos_iff, List.length_drop, List.length_append]
    rw [height] at hmark
    omega
  · rw [Context.dropScopes, hscopes, List.drop_append_of_le_length hle]

/-- Closing all scopes above `base` gives `base`. -/
theorem dropScopes_height (h : base.Above c) : c.dropScopes base.height = base := by
  obtain ⟨hdepth, htrail, own, -, hscopes⟩ := h
  rcases c with ⟨depth, trail, scopes⟩
  subst hdepth htrail hscopes
  simp [Context.dropScopes, height]

/-- Rolling back to a mark that `base` does not reach stays above it. -/
theorem rollback {s : Session} (h : base.Above s.context) {mark : Nat}
    (hmark : base.height < mark) : base.Above (s.rollback mark).context := by
  by_cases hlt : mark < s.context.height
  · rw [Session.context_rollback hlt]
    exact h.dropScopes hmark
  · rw [Session.rollback, if_neg hlt]
    exact h

end Above

end Context

variable {α : Type} {base : Context}

/-- What lies above the context of a scope is gone when the scope closes. -/
theorem context_inScope_of_above {m : ConvertM α} {s : Session}
    (h : s.context.Above (m.outcome s.pushScope).2.context) :
    ((inScope m).outcome s).2.context = s.context := by
  rw [outcome_inScope, Session.context_rollback h.height_lt]
  exact h.dropScopes_height

/-- A conversion stays above what it began above. -/
theorem Keeps.above {e : Effect} {m : ConvertM α} (h : Keeps e m) {s : Session}
    (hs : base.Above s.context) : base.Above (m.outcome s).2.context := by
  obtain ⟨f, hf⟩ := (h s).exists_modifyScope
  rw [hf]
  exact hs.modifyScope f

/-! ## Checkpoints -/

namespace Checkpoints

variable {first height : Nat} {marks marks' marks'' : Checkpoints}

/-- The checkpoints from number `first` on that can still be rolled back to were taken when
more than `height` scopes were open. -/
def Beyond (first height : Nat) (marks : Checkpoints) : Prop :=
  ∀ number mark : Nat, first ≤ number → marks[number]? = some (some mark) → height < mark

/-- From `marks` to `marks'`, checkpoints have been used up, and those that have been added
were taken when more than `height` scopes were open. -/
def Grows (height : Nat) (marks marks' : Checkpoints) : Prop :=
  ∀ number mark : Nat, marks'[number]? = some (some mark) →
    marks[number]? = some (some mark) ∨ height < mark

/-- No checkpoint has a number that is yet to be given. -/
theorem beyond_length (height : Nat) (marks : Checkpoints) :
    Beyond marks.length height marks := by
  intro number mark hnumber hmark
  rw [List.getElem?_eq_none hnumber] at hmark
  cases hmark

theorem grows_refl (height : Nat) (marks : Checkpoints) : Grows height marks marks :=
  fun _ _ => Or.inl

/-- Checkpoints may be used up and added in several stretches. -/
theorem Grows.trans (h : Grows height marks marks') (h' : Grows height marks' marks'') :
    Grows height marks marks'' :=
  fun number mark hmark => (h' number mark hmark).elim (h number mark) Or.inr

theorem Grows.mono {height' : Nat} (hle : height' ≤ height) (h : Grows height marks marks') :
    Grows height' marks marks' :=
  fun number mark hmark => (h number mark hmark).imp_right (Nat.lt_of_le_of_lt hle)

/-- Checkpoints that are added above a height lie beyond it. -/
theorem Beyond.grows (h : Beyond first height marks) (hgrows : Grows height marks marks') :
    Beyond first height marks' :=
  fun number mark hfirst hmark =>
    (hgrows number mark hmark).elim (h number mark hfirst) id

/-- A checkpoint may be added above a height. -/
theorem grows_append {taken : Nat} (h : height < taken) :
    Grows height marks (marks ++ [some taken]) := by
  intro number mark hmark
  rcases Nat.lt_or_ge number marks.length with hlt | hge
  · rw [List.getElem?_append_left hlt] at hmark
    exact .inl hmark
  · rw [List.getElem?_append_right hge] at hmark
    obtain ⟨-, rfl⟩ : number - marks.length = 0 ∧ taken = mark := by
      simpa [List.getElem?_singleton] using hmark
    exact .inr h

/-- A checkpoint may be used up. -/
theorem grows_set (height number : Nat) (marks : Checkpoints) :
    Grows height marks (marks.set number none) := by
  intro number' mark hmark
  rw [List.getElem?_set] at hmark
  split at hmark
  · split at hmark <;> cases hmark
  · exact .inl hmark

end Checkpoints

/-! ## Bracketed scripts -/

namespace Step

mutual

/-- How many checkpoints a step takes. -/
def checkpoints : Step → Nat
  | checkpoint => 1
  | block steps _ => checkpointsAll steps
  | _ => 0

/-- How many checkpoints steps take. -/
def checkpointsAll : List Step → Nat
  | [] => 0
  | step :: steps => step.checkpoints + checkpointsAll steps

end

mutual

/-- Whether a step of a block rolls back to checkpoints of the block only. Those of the block
are numbered from `first` on, and `taken` have been taken before the step. -/
def bracketed (first taken : Nat) : Step → Bool
  | rollback number => first ≤ number
  | block steps _ => bracketedAll taken taken steps
  | _ => true

/-- Whether the steps of a block roll back to checkpoints of the block only. -/
def bracketedAll (first taken : Nat) : List Step → Bool
  | [] => true
  | step :: steps =>
    step.bracketed first taken && bracketedAll first (taken + step.checkpoints) steps

end

/-- A block that stops early is bracketed too. -/
theorem bracketedAll_take {first : Nat} : ∀ {taken : Nat} {steps : List Step} (stop : Nat),
    bracketedAll first taken steps → bracketedAll first taken (steps.take stop)
  | _, _, 0, _ => by rw [List.take_zero, bracketedAll]
  | _, [], _ + 1, h => h
  | taken, step :: steps, stop + 1, h => by
    rw [bracketedAll, Bool.and_eq_true] at h
    rw [List.take_succ_cons, bracketedAll, Bool.and_eq_true]
    exact ⟨h.1, bracketedAll_take stop h.2⟩

end Step

/-! ## Steps stay above their block -/

/-- Whatever is converted on its own, it changes nothing but the innermost scope. -/
theorem Compiler.keeps_task (c : Compiler) (task : Task) : Keeps .inner (task.run c) := by
  have hkeeps : ∀ {F : Descent → ConvertM (Option Plan)}, Contained F →
      Keeps .inner (F c.convert) := fun h => h c.keeps_convert
  have hlisted : ∀ {F : Descent → ConvertM (Option (List Plan))} (span : Span),
      Program .inner F → Keeps .inner (Task.listed span (F c.convert)) := by
    intro F span h
    have hprogram : Program .inner fun go => Task.listed span (F go) := .bind h fun
      | none => .pure none
      | some plans => .pure _
    exact hkeeps hprogram.contained
  have hpage : ∀ value : Option PageValue, Keeps .inner (whenPresent pageValue value) :=
    fun value => hkeeps (program_whenPresent (e := .inner) program_pageValue value).contained
  cases task with
  | nothing => exact hkeeps (Program.pure (e := .inner) none).contained
  | segment x => exact hkeeps (Program.descend x (e := x.effect) (by cases x <;> rfl)).contained
  | tableRule rule t => exact hkeeps (program_tableRule rule t).contained
  | projectionRule rule p => exact hkeeps (program_projectionRule c.settings rule p).contained
  | exprRule rule x =>
    exact hkeeps (program_exprRule (e := .inner) c.registry.operators rule x).contained
  | statementRule rule st => exact hkeeps (program_statementRule (e := .inner) rule st).contained
  | condition clause => exact hkeeps (program_expression (e := .inner) clause.expr).contained
  | selectList l => exact hlisted l.span (program_selectList l)
  | groupBy clause => exact hlisted clause.span (program_groupKeys clause)
  | orderBy clause => exact hlisted clause.span (program_orderKeys clause)
  | orderItem item => exact hkeeps (program_orderItem (e := .inner) item).contained
  | pageValue value =>
    exact hkeeps (program_map some (program_pageValue (e := .inner) value)).contained
  | offset limit => exact hpage limit.offset
  | rowCount limit => exact hpage limit.rowCount
  | combine clause => exact hkeeps (program_select (e := .inner) clause.query.select).contained

namespace Step

variable {marks : Checkpoints} {s : Session}

/-- From the state `s`, the steps `m` of a block on `base` come to an end above `base`. There
are then `taken` checkpoints, and those that were added were taken above `base`. -/
def Completes (base : Context) (marks : Checkpoints) (taken : Nat)
    (m : ConvertM (α × Checkpoints)) (s : Session) : Prop :=
  ∃ a marks' t, m.outcome s = (.ok (a, marks'), t) ∧ base.Above t.context ∧
    marks'.length = taken ∧ marks.Grows base.height marks'

/-- A step that takes no checkpoint and uses none up. -/
theorem completes_of_outcome {m : ConvertM (α × Checkpoints)} {a : α} {t : Session}
    (hm : m.outcome s = (.ok (a, marks), t)) (ht : base.Above t.context) :
    Completes base marks (marks.length + 0) m s :=
  ⟨a, marks, t, hm, ht, rfl, Checkpoints.grows_refl _ _⟩

mutual

/-- A step runs to its end above `base`, if its rollbacks are bracketed. A block begins without a
checkpoint of its own. -/
theorem completes_run (c : Compiler) : ∀ (step : Step) {base : Context} {first : Nat}
    {marks : Checkpoints} {s : Session}, base.Above s.context →
      marks.Beyond first base.height → step.bracketed first marks.length →
      Completes base marks (marks.length + step.checkpoints) (step.run c marks) s
  | pushScope, _, _, _, _, hs, _, _ => completes_of_outcome rfl hs.pushScope
  | bindAlias name, _, _, _, _, hs, _, _ => completes_of_outcome rfl (hs.modifyScope _)
  | setOrdinal ordinal, _, _, _, _, hs, _, _ => completes_of_outcome rfl (hs.modifyScope _)
  | checkpoint, _, _, marks, s, hs, _, _ => by
    refine ⟨_, marks ++ [some s.context.height], s, rfl, hs, ?_, ?_⟩
    · exact List.length_append
    · exact Checkpoints.grows_append hs.height_lt
  | rollback number, base, first, marks, s, hs, hmarks, h => by
    have hfirst : first ≤ number := by simpa [bracketed] using h
    rw [run]
    split
    · rename_i mark hmark
      exact ⟨_, marks.set number none, s.rollback mark, rfl,
        hs.rollback (hmarks number mark hfirst hmark), List.length_set,
        Checkpoints.grows_set _ _ _⟩
    · exact completes_of_outcome rfl hs
  | qualifierDepth owner, _, _, _, _, hs, _, _ => completes_of_outcome rfl hs
  | derivedAlias, _, _, _, _, hs, _, _ => completes_of_outcome rfl hs
  | convert task, _, _, _, _, hs, _, _ => completes_of_outcome rfl ((c.keeps_task task).above hs)
  | expressions owner exprs, _, _, _, _, hs, _, _ =>
    completes_of_outcome rfl
      (((program_expressions (e := .inner) owner exprs).keeps c.keeps_convert).above hs)
  | block steps fails, base, first, marks, s, hs, hmarks, h => by
    rw [bracketed] at h
    obtain ⟨entries, marks', t, hrun, habove, hlength, hgrows⟩ :=
      completes_runAll c steps (s := s.pushScope) s.context.above_pushScope
        (Checkpoints.beyond_length s.context.height marks) h
    have hcontext : ((inScope (runAll c marks steps)).outcome s).2.context = s.context :=
      context_inScope_of_above (by rw [hrun]; exact habove)
    have hresult : ((inScope (runAll c marks steps)).outcome s).1 = .ok (entries, marks') := by
      rw [outcome_inScope, hrun]
    refine ⟨if fails then .failed (.maxRecursion (.ofNat steps.length)) else .entries entries,
      marks', ((inScope (runAll c marks steps)).outcome s).2, ?_, ?_, ?_, ?_⟩
    · rw [run]
      exact outcome_bind_of_ok (Prod.ext hresult rfl)
    · rw [hcontext]
      exact hs
    · rw [hlength, checkpoints]
    · exact hgrows.mono (Nat.le_of_lt hs.height_lt)
  | unreadable fault, _, _, _, _, hs, _, _ => completes_of_outcome rfl hs

/-- Steps run to their end above `base`, one after the other, if their rollbacks are bracketed. -/
theorem completes_runAll (c : Compiler) : ∀ (steps : List Step) {base : Context} {first : Nat}
    {marks : Checkpoints} {s : Session}, base.Above s.context →
      marks.Beyond first base.height → bracketedAll first marks.length steps →
      Completes base marks (marks.length + checkpointsAll steps) (runAll c marks steps) s
  | [], _, _, _, _, hs, _, _ => completes_of_outcome rfl hs
  | step :: steps, base, first, marks, s, hs, hmarks, h => by
    rw [bracketedAll, Bool.and_eq_true] at h
    obtain ⟨result, marks', t, hrun, habove, hlength, hgrows⟩ :=
      completes_run c step hs hmarks h.1
    rw [← hlength] at h
    obtain ⟨entries, marks'', u, hrunAll, habove', hlength', hgrows'⟩ :=
      completes_runAll c steps habove (hmarks.grows hgrows) h.2
    refine ⟨(result, t.context) :: entries, marks'', u, ?_, habove', ?_, hgrows.trans hgrows'⟩
    · rw [runAll, outcome_bind_of_ok hrun, outcome_bind_of_ok (outcome_context t),
        outcome_bind_of_ok hrunAll]
      rfl
    · rw [hlength', hlength, checkpointsAll, Nat.add_assoc]

end

/-- A block of a bracketed script leaves no trace: the scopes, the depth and the path are after
it what they were before. This holds wherever the block stops, and whether it then ends with a
value or with a failure, which `finish` decides. -/
theorem context_inScope_runAll (c : Compiler) {marks : Checkpoints} {steps : List Step}
    (h : bracketedAll marks.length marks.length steps) (stop : Nat)
    (finish : List (StepResult × Context) × Checkpoints → Except ConvertError α) (s : Session) :
    ((inScope (do
      let results ← runAll c marks (steps.take stop)
      MonadExcept.ofExcept (finish results))).outcome s).2.context = s.context := by
  obtain ⟨entries, marks', t, hrun, habove, -, -⟩ :=
    completes_runAll c (steps.take stop) (s := s.pushScope) s.context.above_pushScope
      (Checkpoints.beyond_length s.context.height marks) (bracketedAll_take stop h)
  refine context_inScope_of_above ?_
  rw [outcome_bind_of_ok hrun]
  cases finish (entries, marks') with
  | ok a => exact habove
  | error error => exact habove

/-- Steps in which the second checkpoint goes stale: the scope it was taken in is closed, and
others are opened in its place before it is rolled back to. -/
def restless : List Step :=
  [checkpoint, pushScope, checkpoint, rollback 1, pushScope, pushScope, bindAlias "t", rollback 2,
    block [checkpoint, pushScope, rollback 3, setOrdinal 4] true,
    convert (.segment (.table (.simple { name := "u" })))]

theorem context_inScope_runAll_restless :
    bracketedAll 1 1 restless ∧
    ((inScope (do
      let results ← runAll {} [some 0] (restless.take 10)
      MonadExcept.ofExcept ((fun _ => .error (.maxRecursion 0) :
        List (StepResult × Context) × Checkpoints → Except ConvertError Unit) results))).outcome
      ⟨⟨1, [.selectStatement], [⟨["o"], 2⟩]⟩, []⟩).2.context =
        ⟨1, [.selectStatement], [⟨["o"], 2⟩]⟩ :=
  ⟨rfl, context_inScope_runAll {} rfl 10 (fun _ => .error (.maxRecursion 0)) _⟩

/-- A checkpoint from outside the block takes the scope below the block with it. -/
example : ((inScope (runAll {} [some 0] [rollback 0])).outcome
    ⟨⟨1, [.selectStatement], [⟨["o"], 2⟩]⟩, []⟩).2.context = ⟨1, [.selectStatement], []⟩ :=
  rfl

end Step

end SqlAlgebra
