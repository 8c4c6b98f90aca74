import SqlAlgebra.Operator.Table

/-!
# What operator texts resolve to

A table of spellings is filled by registrations, so what holds of every registered operator
holds of every operator that is looked up in it (`Spellings.of_find?_registered`). For the
standard table this leaves a check of its two lists of registrations, and of the functions
that are known by name only (`OperatorTable.of_resolveBinary?_standard`,
`OperatorTable.of_resolveFunction_standard`). The same goes for its spellings
(`OperatorTable.forall_mem_binarySpellings_standard`).
-/

namespace SqlAlgebra

namespace Spellings

variable {spelling : String} {op : Operator} {entries : Spellings}

/-- Inserting brings in the new entry and no other. -/
theorem eq_or_mem_of_mem_insert {e : String × Operator} (h : e ∈ insert spelling op entries) :
    e = (spelling, op) ∨ e ∈ entries := by
  induction entries with
  | nil => exact .inl (List.mem_singleton.1 h)
  | cons first rest ih =>
    unfold insert at h
    split at h
    · exact List.mem_cons.1 h
    · split at h
      · exact (List.mem_cons.1 h).imp_right (List.mem_cons_of_mem _)
      · rcases List.mem_cons.1 h with rfl | h
        · exact .inr (List.mem_cons_self ..)
        · exact (ih h).imp_right (List.mem_cons_of_mem _)

theorem mem_of_find?_eq_some (h : find? spelling entries = some op) :
    (spelling, op) ∈ entries := by
  induction entries with
  | nil => cases h
  | cons first rest ih =>
    unfold find? at h
    split at h
    · rename_i heq
      obtain rfl := Option.some.inj h
      rw [eq_of_beq heq]
      exact List.mem_cons_self ..
    · exact List.mem_cons_of_mem _ (ih h)

/-- Registers several spellings, in order. -/
def registered (entries : List (String × Operator)) (spellings : Spellings) : Spellings :=
  entries.foldl (fun spellings e => insert (Text.normalForm e.1) e.2 spellings) spellings

/-- What holds of the entries in normal form holds of the spellings they are registered as. -/
theorem forall_mem_registered {P : String × Operator → Prop} (entries : List (String × Operator))
    (h : ∀ e ∈ entries, P (Text.normalForm e.1, e.2)) :
    ∀ spellings : Spellings, (∀ e ∈ spellings, P e) → ∀ e ∈ registered entries spellings, P e := by
  induction entries with
  | nil => exact fun _ hs => hs
  | cons first rest ih =>
    intro spellings hs
    refine ih (fun e he => h e (List.mem_cons_of_mem _ he)) _ fun e he => ?_
    rcases eq_or_mem_of_mem_insert he with rfl | he
    · exact h first (List.mem_cons_self ..)
    · exact hs e he

/-- What is found among registered entries is one of their operators. -/
theorem of_find?_registered {P : Operator → Prop} {entries : List (String × Operator)}
    (h : ∀ e ∈ entries, P e.2) (hop : find? spelling (registered entries []) = some op) : P op :=
  forall_mem_registered (P := fun e => P e.2) entries h [] (List.forall_mem_nil _) _
    (mem_of_find?_eq_some hop)

end Spellings

namespace OperatorTable

/-- Registering binary operators changes their spellings only. -/
theorem withBinaries_eq (entries : List (String × Operator)) (table : OperatorTable) :
    table.withBinaries entries =
      { table with binary := Spellings.registered entries table.binary } := by
  induction entries generalizing table with
  | nil => rfl
  | cons e entries ih => exact ih _

theorem withFunctions_eq (entries : List (String × Operator)) (table : OperatorTable) :
    table.withFunctions entries =
      { table with functions := Spellings.registered entries table.functions } := by
  induction entries generalizing table with
  | nil => rfl
  | cons e entries ih => exact ih _

/-- The standard table consists of the standard entries. -/
theorem standard_eq : standard =
    ⟨Spellings.registered standardBinaries [], Spellings.registered standardFunctions []⟩ := by
  rw [standard, withFunctions_eq, withBinaries_eq]
  rfl

/-- What holds of all standard binary operators holds of any that is found. -/
theorem of_resolveBinary?_standard {P : Operator → Prop} (h : ∀ e ∈ standardBinaries, P e.2)
    {text : String} {op : Operator} (hop : standard.resolveBinary? text = some op) : P op := by
  rw [resolveBinary?, standard_eq] at hop
  exact Spellings.of_find?_registered h hop

/-- The spellings of the standard table are the normal forms of the registered texts. -/
theorem forall_mem_binarySpellings_standard {P : String → Prop}
    (h : ∀ e ∈ standardBinaries, P (Text.normalForm e.1)) :
    ∀ spelling ∈ standard.binarySpellings, P spelling := by
  rw [binarySpellings, standard_eq]
  exact List.forall_mem_map.2 (Spellings.forall_mem_registered (P := fun e => P e.1)
    standardBinaries h [] (List.forall_mem_nil _))

/-- What holds of all standard functions and of functions known by name only holds of every
function. -/
theorem of_resolveFunction_standard {P : Operator → Prop} (h : ∀ e ∈ standardFunctions, P e.2)
    (hname : ∀ name, P (.function name)) (name : String) : P (standard.resolveFunction name) := by
  rw [resolveFunction, standard_eq]
  dsimp only
  cases hop : Spellings.find? (Text.normalForm name) (Spellings.registered standardFunctions [])
  · exact hname _
  · exact Spellings.of_find?_registered h hop

end OperatorTable

end SqlAlgebra
