import Mathlib.Data.List.Induction
import Mathlib.Data.String.Basic
import SqlAlgebra.Proofs.NormalForm
import SqlAlgebra.Proofs.Resolution

/-!
# Tables after registrations

A table is made from another one by registrations, each of an operator text or of a function
name. Registering changes what one spelling stands for in one part of the table, and nothing
else (`find?_insert`, `meaning?_register`). So after a sequence of them a text stands for the
operator of the last registration that names it, in whatever spelling, and if there is none for
what it stood for before (`meaning?_registerAll`). Registrations of the other part make no
difference (`part_registerAll_filter`).

The spellings of a part are in ascending order and are normal forms. The empty table is like
that, and registrations keep it so (`Ordered.insert`, `ordered_registerAll`); the standard table
is the empty one after the standard registrations (`standard_eq_registerAll`).
-/

namespace SqlAlgebra

open Text

namespace Spellings

variable {spelling s : String} {op o : Operator} {entries rest : Spellings}

/-! ## Entries -/

theorem find?_cons (spelling s : String) (o : Operator) (rest : Spellings) :
    find? spelling ((s, o) :: rest) = if spelling = s then some o else find? spelling rest := by
  rw [find?]
  exact if_congr beq_iff_eq rfl rfl

/-- A spelling that comes earlier goes in front. -/
theorem insert_cons_of_lt (h : spelling < s) (op : Operator) :
    insert spelling op ((s, o) :: rest) = (spelling, op) :: (s, o) :: rest :=
  if_pos h

theorem insert_cons_self (spelling : String) (op o : Operator) (rest : Spellings) :
    insert spelling op ((spelling, o) :: rest) = (spelling, op) :: rest := by
  rw [insert, if_neg (lt_irrefl spelling), if_pos (beq_self_eq_true spelling)]

theorem insert_cons_of_gt (h : s < spelling) (op : Operator) :
    insert spelling op ((s, o) :: rest) = (s, o) :: insert spelling op rest := by
  rw [insert, if_neg h.not_gt, if_neg fun heq => h.ne' (eq_of_beq heq)]

/-- Only the inserted spelling stands for something else than before. -/
theorem find?_insert (spelling other : String) (op : Operator) (entries : Spellings) :
    find? other (insert spelling op entries) =
      if other = spelling then some op else find? other entries := by
  induction entries with
  | nil => exact find?_cons other spelling op []
  | cons first rest ih =>
    obtain ⟨s, o⟩ := first
    rcases lt_trichotomy spelling s with hlt | rfl | hgt
    · rw [insert_cons_of_lt hlt, find?_cons]
    · rw [insert_cons_self, find?_cons, find?_cons]
      split <;> rfl
    · rw [insert_cons_of_gt hgt, find?_cons, find?_cons, ih]
      rcases eq_or_ne other s with rfl | hother
      · rw [if_pos rfl, if_pos rfl, if_neg hgt.ne]
      · rw [if_neg hother, if_neg hother]

/-- A spelling is found exactly if it has an entry. -/
theorem isSome_find?_iff : (find? spelling entries).isSome ↔ spelling ∈ entries.map Prod.fst := by
  induction entries with
  | nil => simp [find?]
  | cons first rest ih =>
    rw [find?_cons, List.map_cons, List.mem_cons]
    by_cases h : spelling = first.1 <;> simp [h, ih]

/-- The entries are in ascending order of their spellings, which are normal forms. -/
structure Ordered (entries : Spellings) : Prop where
  ascending : entries.Pairwise fun e e' => e.1 < e'.1
  normal : ∀ e ∈ entries, normalForm e.1 = e.1

theorem ordered_nil : Ordered [] := ⟨.nil, List.forall_mem_nil _⟩

/-- Inserting keeps the spellings in ascending order. -/
theorem pairwise_insert (spelling : String) (op : Operator)
    (h : entries.Pairwise fun e e' => e.1 < e'.1) :
    (insert spelling op entries).Pairwise fun e e' => e.1 < e'.1 := by
  induction entries with
  | nil => exact List.pairwise_singleton _ _
  | cons first rest ih =>
    obtain ⟨s, o⟩ := first
    obtain ⟨hfirst, hrest⟩ := List.pairwise_cons.1 h
    rcases lt_trichotomy spelling s with hlt | rfl | hgt
    · rw [insert_cons_of_lt hlt]
      refine List.pairwise_cons.2 ⟨List.forall_mem_cons.2 ⟨hlt, fun e he => ?_⟩, h⟩
      exact hlt.trans (hfirst e he)
    · rw [insert_cons_self]
      exact List.pairwise_cons.2 ⟨hfirst, hrest⟩
    · rw [insert_cons_of_gt hgt]
      refine List.pairwise_cons.2 ⟨fun e he => ?_, ih hrest⟩
      rcases eq_or_mem_of_mem_insert he with rfl | he
      · exact hgt
      · exact hfirst e he

/-- Inserting a normal form keeps the entries in order. -/
theorem Ordered.insert (h : entries.Ordered) (hnormal : normalForm spelling = spelling)
    (op : Operator) : Ordered (insert spelling op entries) where
  ascending := pairwise_insert spelling op h.ascending
  normal := fun e he => by
    rcases eq_or_mem_of_mem_insert he with rfl | he
    · exact hnormal
    · exact h.normal e he

end Spellings

namespace OperatorTable

/-! ## Registrations -/

/-- The parts of a table. -/
inductive Part
  | binary
  | functions
deriving DecidableEq, Repr

/-- The entries of a part. -/
def part (table : OperatorTable) : Part → Spellings
  | .binary => table.binary
  | .functions => table.functions

/-- A text that is given a meaning in a part of a table. -/
structure Registration where
  part : Part
  text : String
  operator : Operator
deriving DecidableEq, Repr

/-- A registration names the texts that are looked up by the same spelling. -/
def Registration.Names (r : Registration) (part : Part) (text : String) : Prop :=
  r.part = part ∧ normalForm r.text = normalForm text

instance (r : Registration) (part : Part) (text : String) : Decidable (r.Names part text) :=
  inferInstanceAs (Decidable (_ ∧ _))

/-- Registers a text in its part. -/
def register (table : OperatorTable) (r : Registration) : OperatorTable :=
  match r.part with
  | .binary => table.withBinary r.text r.operator
  | .functions => table.withFunction r.text r.operator

/-- Registers several texts, in order. -/
def registerAll (table : OperatorTable) (rs : List Registration) : OperatorTable :=
  rs.foldl register table

/-- The operator of the last registration that names a text. -/
def lastOf? (rs : List Registration) (part : Part) (text : String) : Option Operator :=
  (rs.reverse.find? fun r => r.Names part text).map Registration.operator

/-- The operator that a part has for a text. -/
def meaning? (table : OperatorTable) (part : Part) (text : String) : Option Operator :=
  Spellings.find? (normalForm text) (table.part part)

variable (table : OperatorTable)

theorem registerAll_concat (rs : List Registration) (r : Registration) :
    table.registerAll (rs ++ [r]) = (table.registerAll rs).register r :=
  List.foldl_append

theorem lastOf?_concat (rs : List Registration) (r : Registration) (part : Part) (text : String) :
    lastOf? (rs ++ [r]) part text =
      if r.Names part text then some r.operator else lastOf? rs part text := by
  rw [lastOf?, List.reverse_append, List.reverse_singleton, List.singleton_append,
    List.find?_cons]
  by_cases h : r.Names part text <;> simp [h, lastOf?]

/-- A registration puts an entry into its part and leaves the other part alone. -/
theorem part_register (r : Registration) (part : Part) :
    (table.register r).part part =
      if r.part = part then Spellings.insert (normalForm r.text) r.operator (table.part part)
      else table.part part := by
  obtain ⟨own, text, op⟩ := r
  cases own <;> cases part <;> rfl

/-- A registration gives a meaning to what it names and to nothing else. -/
theorem meaning?_register (r : Registration) (part : Part) (text : String) :
    (table.register r).meaning? part text =
      if r.Names part text then some r.operator else table.meaning? part text := by
  rw [meaning?, part_register]
  by_cases hpart : r.part = part
  · rw [if_pos hpart, Spellings.find?_insert]
    refine if_congr ?_ rfl rfl
    rw [Registration.Names, and_iff_right hpart, eq_comm]
  · rw [if_neg hpart, if_neg fun h => hpart h.1]
    rfl

/-- The last registration of a text decides, and without one the table as it was. -/
theorem meaning?_registerAll (rs : List Registration) (part : Part) (text : String) :
    (table.registerAll rs).meaning? part text =
      (lastOf? rs part text).or (table.meaning? part text) := by
  induction rs using List.reverseRecOn with
  | nil => rfl
  | append_singleton rs r ih =>
    rw [registerAll_concat, meaning?_register, lastOf?_concat, ih]
    split <;> rfl

/-- A binary operator stands for what it was last registered as, or for what it stood for before. -/
theorem resolveBinary?_registerAll (rs : List Registration) (text : String) :
    (table.registerAll rs).resolveBinary? text =
      (lastOf? rs .binary text).or (table.resolveBinary? text) :=
  table.meaning?_registerAll rs .binary text

/-- A function is known if it was registered or was known before. -/
theorem hasFunction_registerAll (rs : List Registration) (name : String) :
    (table.registerAll rs).hasFunction name =
      ((lastOf? rs .functions name).isSome || table.hasFunction name) := by
  calc (table.registerAll rs).hasFunction name
    _ = ((table.registerAll rs).meaning? .functions name).isSome := rfl
    _ = ((lastOf? rs .functions name).or (table.meaning? .functions name)).isSome := by
      rw [meaning?_registerAll]
    _ = ((lastOf? rs .functions name).isSome || table.hasFunction name) := Option.isSome_or

/-- A function stands for what it was last registered as, or for what it stood for before. -/
theorem resolveFunction_registerAll (rs : List Registration) (name : String) :
    (table.registerAll rs).resolveFunction name =
      (lastOf? rs .functions name).getD (table.resolveFunction name) := by
  calc (table.registerAll rs).resolveFunction name
    _ = ((table.registerAll rs).meaning? .functions name).getD (.function (normalForm name)) := rfl
    _ = ((lastOf? rs .functions name).or (table.meaning? .functions name)).getD
        (.function (normalForm name)) := by rw [meaning?_registerAll]
    _ = (lastOf? rs .functions name).getD (table.resolveFunction name) := Option.getD_or

/-- A function that is not known stands for itself, in normal form. -/
theorem resolveFunction_of_unknown {name : String} (h : table.hasFunction name = false) :
    table.resolveFunction name = .function (normalForm name) := by
  have hnone : Spellings.find? (normalForm name) table.functions = none :=
    Option.not_isSome_iff_eq_none.1 (Bool.eq_false_iff.1 h)
  rw [resolveFunction, hnone]
  rfl

/-- A part is made by the registrations that belong to it. -/
theorem part_registerAll_filter (rs : List Registration) (part : Part) :
    (table.registerAll rs).part part =
      (table.registerAll (rs.filter fun r => r.part = part)).part part := by
  induction rs using List.reverseRecOn with
  | nil => rfl
  | append_singleton rs r ih =>
    rw [registerAll_concat, part_register, List.filter_append, ih]
    by_cases h : r.part = part
    · rw [if_pos h, List.filter_cons_of_pos (by simpa using h), List.filter_nil,
        registerAll_concat, part_register, if_pos h]
    · rw [if_neg h, List.filter_cons_of_neg (by simpa using h), List.filter_nil, List.append_nil]

/-! ## Order -/

variable {table}

theorem ordered_register (h : ∀ part, (table.part part).Ordered) (r : Registration)
    (part : Part) : ((table.register r).part part).Ordered := by
  rw [part_register]
  split
  · exact (h part).insert (normalForm_normalForm r.text) r.operator
  · exact h part

/-- Registrations keep the entries in order. -/
theorem ordered_registerAll (h : ∀ part, (table.part part).Ordered) (rs : List Registration) :
    ∀ part, ((table.registerAll rs).part part).Ordered := by
  induction rs using List.reverseRecOn with
  | nil => exact h
  | append_singleton rs r ih =>
    rw [registerAll_concat]
    exact ordered_register ih r

theorem ordered_empty (part : Part) : (empty.part part).Ordered := by
  cases part <;> exact Spellings.ordered_nil

/-- What the standard table is made by. -/
def standardRegistrations : List Registration :=
  standardBinaries.map (fun e => ⟨.binary, e.1, e.2⟩) ++
    standardFunctions.map fun e => ⟨.functions, e.1, e.2⟩

/-- The standard table is made by registrations. -/
theorem standard_eq_registerAll : standard = empty.registerAll standardRegistrations := by
  rw [registerAll, standardRegistrations, List.foldl_append, List.foldl_map, List.foldl_map]
  rfl

theorem ordered_standard (part : Part) : (standard.part part).Ordered := by
  rw [standard_eq_registerAll]
  exact ordered_registerAll ordered_empty standardRegistrations part

/-! ## Listing -/

/-- A text is resolved exactly if its normal form is among the spellings. -/
theorem isSome_resolveBinary?_iff {text : String} :
    (table.resolveBinary? text).isSome ↔ normalForm text ∈ table.binarySpellings :=
  Spellings.isSome_find?_iff

/-- The spellings of a table in order ascend. -/
theorem pairwise_binarySpellings (h : table.binary.Ordered) :
    table.binarySpellings.Pairwise (· < ·) :=
  List.pairwise_map.2 h.ascending

/-- The spellings of a table in order are in normal form. -/
theorem normalForm_of_mem_binarySpellings (h : table.binary.Ordered) :
    ∀ spelling ∈ table.binarySpellings, normalForm spelling = spelling :=
  List.forall_mem_map.2 h.normal

/-- After any registrations a binary operator text stands for the operator of the last
registration of one with the same normal form, and if there is none for what it stood for before.
So does a function name, and it is known by the table or else the function of its normal form.
Registrations of operator texts and of function names leave each other's part alone. The binary
spellings are listed in ascending order; they are the normal forms of the texts that stand for an
operator. -/
theorem registerAll_lastWins {base : OperatorTable} (hbase : base = empty ∨ base = standard)
    (rs : List Registration) :
    let table := base.registerAll rs
    (∀ text, table.resolveBinary? text =
      (lastOf? rs .binary text).or (base.resolveBinary? text)) ∧
    (∀ name, table.resolveFunction name =
      (lastOf? rs .functions name).getD (base.resolveFunction name)) ∧
    (∀ name, table.hasFunction name =
      ((lastOf? rs .functions name).isSome || base.hasFunction name)) ∧
    (∀ name, table.hasFunction name = false →
      table.resolveFunction name = .function (normalForm name)) ∧
    (∀ part, table.part part = (base.registerAll (rs.filter fun r => r.part = part)).part part) ∧
    table.binarySpellings.Pairwise (· < ·) ∧
    (∀ spelling ∈ table.binarySpellings,
      normalForm spelling = spelling ∧ (table.resolveBinary? spelling).isSome) ∧
    ∀ text, (table.resolveBinary? text).isSome ↔ normalForm text ∈ table.binarySpellings := by
  have hordered : (base.registerAll rs).binary.Ordered := by
    rcases hbase with rfl | rfl
    · exact ordered_registerAll ordered_empty rs .binary
    · exact ordered_registerAll ordered_standard rs .binary
  refine ⟨base.resolveBinary?_registerAll rs, base.resolveFunction_registerAll rs,
    base.hasFunction_registerAll rs, fun _ => resolveFunction_of_unknown _,
    base.part_registerAll_filter rs, pairwise_binarySpellings hordered, fun spelling hmem => ?_,
    fun _ => isSome_resolveBinary?_iff⟩
  have hnormal := normalForm_of_mem_binarySpellings hordered spelling hmem
  exact ⟨hnormal, isSome_resolveBinary?_iff.2 (by rwa [hnormal])⟩

/-- Two spellings of LIKE, and the function of that name. -/
def likes : List Registration :=
  [⟨.binary, " like ", .core .equals⟩, ⟨.functions, "Like", .core .concat⟩,
    ⟨.binary, "liKE", .core .notLike⟩]

/-- Of two spellings of one text the later one counts, for every spelling of it, and a function
of that name is another matter. -/
theorem registerAll_lastWins_likes :
    (standard.registerAll likes).resolveBinary? "LIKE  " = some (.core .notLike) ∧
    (standard.registerAll likes).resolveFunction "like" = .core .concat ∧
    (standard.registerAll likes).resolveBinary? "not\t like" = some (.core .notLike) := by
  obtain ⟨hbinary, hfunction, -⟩ := registerAll_lastWins (.inr rfl) likes
  refine ⟨(hbinary "LIKE  ").trans ?_, (hfunction "like").trans ?_, (hbinary "not\t like").trans ?_⟩
  all_goals decide +kernel

end OperatorTable

end SqlAlgebra
