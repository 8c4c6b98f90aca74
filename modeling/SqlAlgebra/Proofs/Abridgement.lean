import SqlAlgebra.Wire.Segment

/-!
# Leaving out fields that hold their default

Values are written with all their fields, and readers let some of them be left out: a field
that is declared with a default may be missing, and then it holds that default. A `Schema`
says which fields those are. It gives every part that is written as an object the list of its
fields, each with the shape of its value and the default it may be left out for.

`Schema.Abridged shape json j` says that `j` is `json` with such fields left out: at any depth,
any of them, and each only if it holds its default. The order of the fields of a part does not
matter, so an abridgement may also put them in another order.

What a reader of an abridged object sees of a declared field is an `Entry`: the field stands
there once with an abridged value, or it is missing and held its default
(`Schema.Abridged.entries_of_record`, `Schema.Abridged.exists_tagged`).
-/

namespace SqlAlgebra

/-- Every value has a level of its own. -/
theorem Json.depth_pos (json : Json) : 0 < json.depth := by
  cases json <;> simp [depth]

theorem Json.depth_le_depthItems {json : Json} :
    ∀ {items : List Json}, json ∈ items → json.depth ≤ depthItems items
  | item :: items, h => by
    rw [depthItems]
    rcases List.mem_cons.1 h with rfl | h
    · exact Nat.le_max_left _ _
    · exact Nat.le_trans (depth_le_depthItems h) (Nat.le_max_right _ _)

theorem Json.depth_le_depthFields {f : String × Json} :
    ∀ {fields : List (String × Json)}, f ∈ fields → f.2.depth ≤ depthFields fields
  | (_, _) :: fields, h => by
    rw [depthFields]
    rcases List.mem_cons.1 h with rfl | h
    · exact Nat.le_max_left _ _
    · exact Nat.le_trans (depth_le_depthFields h) (Nat.le_max_right _ _)

/-- The fields of an object are less deep than the object. -/
theorem Json.depth_le_of_mem {fields : List (String × Json)} {n : Nat}
    (h : (Json.object fields).depth ≤ n + 1) : ∀ f ∈ fields, f.2.depth ≤ n := fun _ hf =>
  Nat.le_trans (depth_le_depthFields hf) (Nat.le_of_succ_le_succ h)

theorem Json.depthFields_filter_le (p : String × Json → Bool) :
    ∀ fields : List (String × Json), depthFields (fields.filter p) ≤ depthFields fields
  | [] => Nat.le_refl _
  | (name, json) :: fields => by
    have ih := depthFields_filter_le p fields
    rw [List.filter_cons, depthFields]
    split
    · rw [depthFields]
      omega
    · omega

namespace Wire

/-! ## Schemas -/

/-- The defaults of fields. -/
inductive Default
  | nothing
  | zeroSpan
  | no
  | noItems
  | ascending

/-- A default as it is written. -/
def Default.json : Default → Json
  | nothing => .null
  | zeroSpan => Span.zero.toJson
  | no => .bool false
  | noItems => .array []
  | ascending => .string Direction.ascending.name

/-- What stands in a place: nothing with defaults in it, or parts of a schema, possibly
optional or in a list. -/
inductive Shape (ρ υ : Type)
  | plain
  | optional (shape : Shape ρ υ)
  | list (shape : Shape ρ υ)
  | record (r : ρ)
  | union (u : υ)

/-- A declared field. -/
structure Slot (ρ υ : Type) where
  name : String
  shape : Shape ρ υ
  /-- The value a missing field stands for, if it may be missing. -/
  default : Option Default

namespace Slot

variable {ρ υ : Type}

/-- A field that must be there. -/
def required (name : String) (shape : Shape ρ υ) : Slot ρ υ := ⟨name, shape, none⟩

/-- An optional field, absent by default. -/
def nullable (name : String) (shape : Shape ρ υ) : Slot ρ υ :=
  ⟨name, .optional shape, some .nothing⟩

/-- A flag, not set by default. -/
def flag (name : String) : Slot ρ υ := ⟨name, .plain, some .no⟩

/-- A list, empty by default. -/
def items (name : String) (shape : Shape ρ υ) : Slot ρ υ := ⟨name, .list shape, some .noItems⟩

/-- The place in the source text, zero by default. -/
def span : Slot ρ υ := ⟨"span", .plain, some .zeroSpan⟩

/-- The fields of a part that has one value and its place in the source text. -/
def spanned (name : String) (shape : Shape ρ υ) : List (Slot ρ υ) := [required name shape, span]

end Slot

/-- The parts that some values are made of. A record is an object of its fields. A union is an
object of the fields of one of its variants, next to a tag that names the variant. -/
structure Schema where
  Record : Type
  Union : Type
  slots : Record → List (Slot Record Union)
  tag : Union → String
  variants : Union → List (String × Record)
  names_nodup : ∀ r, ((slots r).map Slot.name).Nodup
  tag_notMem : ∀ u, ∀ v ∈ variants u, tag u ∉ (slots v.2).map Slot.name

namespace Schema

/-- The shapes of the values of a schema. -/
abbrev Shape (S : Schema) := Wire.Shape S.Record S.Union

/-- The fields of the parts of a schema. -/
abbrev Slot (S : Schema) := Wire.Slot S.Record S.Union

mutual

/-- The second value is the first one with some fields left out that hold their default. -/
inductive Abridged (S : Schema) : S.Shape → Json → Json → Prop
  | same (shape : S.Shape) (json : Json) : Abridged S shape json json
  | present {shape : S.Shape} {json j : Json} :
    Abridged S shape json j → Abridged S (.optional shape) json j
  | list {shape : S.Shape} {items js : List Json} :
    AbridgedItems S shape items js → Abridged S (.list shape) (.array items) (.array js)
  | record {r : S.Record} {fields kept js : List (String × Json)} :
    AbridgedFields S (S.slots r) fields kept → kept.Perm js →
    Abridged S (.record r) (.object fields) (.object js)
  | variant {u : S.Union} {name : String} {r : S.Record} {fields kept js : List (String × Json)} :
    lookup name (S.variants u) = some r → AbridgedFields S (S.slots r) fields kept →
    ((S.tag u, .string name) :: kept).Perm js →
    Abridged S (.union u) (.object ((S.tag u, .string name) :: fields)) (.object js)

/-- `Abridged` for each item of a list. -/
inductive AbridgedItems (S : Schema) : S.Shape → List Json → List Json → Prop
  | nil {shape : S.Shape} : AbridgedItems S shape [] []
  | cons {shape : S.Shape} {json j : Json} {items js : List Json} :
    Abridged S shape json j → AbridgedItems S shape items js →
    AbridgedItems S shape (json :: items) (j :: js)

/-- Each field is kept with an abridged value, or left out if it holds its default. -/
inductive AbridgedFields (S : Schema) :
    List S.Slot → List (String × Json) → List (String × Json) → Prop
  | nil : AbridgedFields S [] [] []
  | keep {slot : S.Slot} {slots : List S.Slot} {json j : Json}
    {fields kept : List (String × Json)} :
    Abridged S slot.shape json j → AbridgedFields S slots fields kept →
    AbridgedFields S (slot :: slots) ((slot.name, json) :: fields) ((slot.name, j) :: kept)
  | drop {slot : S.Slot} {slots : List S.Slot} {json : Json}
    {fields kept : List (String × Json)} :
    slot.default.map Default.json = some json → AbridgedFields S slots fields kept →
    AbridgedFields S (slot :: slots) ((slot.name, json) :: fields) kept

end

variable {S : Schema}

/-! ## Shapes of abridgements -/

/-- Nothing can be left out of a plain value. -/
theorem Abridged.eq_of_plain {json j : Json} (h : S.Abridged .plain json j) : j = json := by
  cases h
  rfl

/-- Only `null` is abridged to `null`. -/
theorem Abridged.eq_null :
    ∀ {shape : S.Shape} {json : Json}, S.Abridged shape json .null → json = .null
  | _, _, .same _ _ => rfl
  | _, _, .present h => h.eq_null

theorem Abridged.eq_of_null :
    ∀ {shape : S.Shape} {j : Json}, S.Abridged shape .null j → j = .null
  | _, _, .same _ _ => rfl
  | _, _, .present h => h.eq_of_null

theorem Abridged.of_optional {shape : S.Shape} {json j : Json}
    (h : S.Abridged (.optional shape) json j) : S.Abridged shape json j := by
  cases h with
  | same => exact .same shape json
  | present h => exact h

theorem AbridgedItems.refl {shape : S.Shape} : ∀ items, S.AbridgedItems shape items items
  | [] => .nil
  | json :: items => .cons (.same shape json) (.refl items)

/-- A list is abridged item by item. -/
theorem Abridged.exists_items {shape : S.Shape} {items : List Json} {j : Json}
    (h : S.Abridged (.list shape) (.array items) j) :
    ∃ js, j = .array js ∧ S.AbridgedItems shape items js := by
  cases h with
  | same => exact ⟨items, rfl, .refl items⟩
  | list h => exact ⟨_, rfl, h⟩

theorem AbridgedFields.refl : ∀ {slots : List S.Slot} {fields : List (String × Json)},
    fields.map Prod.fst = slots.map Slot.name → S.AbridgedFields slots fields fields
  | [], [], _ => .nil
  | slot :: slots, (name, json) :: fields, h => by
    obtain ⟨rfl, hnames⟩ := List.cons.inj h
    exact .keep (.same _ _) (.refl hnames)

/-- What is kept of a record is among its fields. -/
theorem AbridgedFields.name_mem {name : String} {json : Json} :
    ∀ {slots : List S.Slot} {fields kept : List (String × Json)},
    S.AbridgedFields slots fields kept → (name, json) ∈ kept → name ∈ slots.map Slot.name
  | _, _, _, .keep _ h, hmem => by
    rcases List.mem_cons.1 hmem with hmem | hmem
    · cases hmem
      exact List.mem_cons_self
    · exact List.mem_cons_of_mem _ (h.name_mem hmem)
  | _, _, _, .drop _ h, hmem => List.mem_cons_of_mem _ (h.name_mem hmem)

/-- A record is abridged field by field, and its fields may be put in any order. -/
theorem Abridged.exists_record {r : S.Record} {fields : List (String × Json)} {j : Json}
    (h : S.Abridged (.record r) (.object fields) j)
    (hnames : fields.map Prod.fst = (S.slots r).map Slot.name) :
    ∃ kept js, j = .object js ∧ S.AbridgedFields (S.slots r) fields kept ∧ kept.Perm js := by
  cases h with
  | same => exact ⟨fields, fields, rfl, .refl hnames, .refl _⟩
  | record h hperm => exact ⟨_, _, rfl, h, hperm⟩

/-- A variant is abridged field by field and keeps its tag, in any order. -/
theorem Abridged.exists_variant {u : S.Union} {name : String} {r : S.Record}
    {fields : List (String × Json)} {j : Json}
    (h : S.Abridged (.union u) (.object ((S.tag u, .string name) :: fields)) j)
    (hr : lookup name (S.variants u) = some r)
    (hnames : fields.map Prod.fst = (S.slots r).map Slot.name) :
    ∃ kept js, j = .object js ∧ S.AbridgedFields (S.slots r) fields kept ∧
      ((S.tag u, .string name) :: kept).Perm js := by
  cases h with
  | same => exact ⟨fields, _, rfl, .refl hnames, .refl _⟩
  | variant hr' h hperm =>
    rw [hr] at hr'
    cases hr'
    exact ⟨_, _, rfl, h, hperm⟩

/-! ## What a reader sees of a field -/

/-- What an object has for a declared field that was written as `json`: an abridged value of at
most `n` levels, or nothing if `json` is the default. -/
inductive Entry (S : Schema) (n : Nat) (fields : List (String × Json)) (slot : S.Slot)
    (json : Json) : Prop
  | kept (position : Nat) (j : Json) : Parts.occurrences slot.name fields 0 = [(position, j)] →
    S.Abridged slot.shape json j → j.depth ≤ n → Entry S n fields slot json
  | dropped : Parts.occurrences slot.name fields 0 = [] →
    slot.default.map Default.json = some json → Entry S n fields slot json

/-- An object has an entry for every declared field. -/
def Entries (S : Schema) (n : Nat) (fields : List (String × Json)) :
    List S.Slot → List (String × Json) → Prop
  | [], [] => True
  | slot :: slots, (_, json) :: written =>
    S.Entry n fields slot json ∧ S.Entries n fields slots written
  | _, _ => False

end Schema

/-! ## Names that are used once -/

theorem mem_of_lookup {name : String} {a : α} :
    ∀ {entries : List (String × α)}, lookup name entries = some a → (name, a) ∈ entries
  | (n, b) :: entries, h => by
    rw [lookup] at h
    split at h
    next hn =>
      cases h
      rw [← eq_of_beq hn]
      exact List.mem_cons_self
    next => exact List.mem_cons_of_mem _ (mem_of_lookup h)

/-- The values found under a name are those of the fields with that name. -/
theorem Parts.map_snd_occurrences (name : String) :
    ∀ (fields : List (String × Json)) (i : Nat), (occurrences name fields i).map Prod.snd =
      (fields.filter fun f => f.1 == name).map Prod.snd
  | [], _ => rfl
  | (n, json) :: fields, i => by
    rw [occurrences, List.filter_cons]
    split
    · rw [List.map_cons, List.map_cons, map_snd_occurrences name fields]
    · exact map_snd_occurrences name fields _

/-- A name that no field has does not occur. -/
theorem Parts.occurrences_eq_nil {name : String} {fields : List (String × Json)} {i : Nat}
    (h : ∀ f ∈ fields, f.1 ≠ name) : occurrences name fields i = [] := by
  have hnone : (fields.filter fun f => f.1 == name) = [] :=
    List.filter_eq_nil_iff.2 fun f hf => by simpa using h f hf
  have hmap := map_snd_occurrences name fields i
  rw [hnone] at hmap
  exact List.map_eq_nil_iff.1 hmap

/-- A name that is used once is found once, wherever it stands. -/
theorem Parts.occurrences_eq_singleton {name : String} {json : Json}
    {others fields : List (String × Json)} {i : Nat} (hothers : ∀ f ∈ others, f.1 ≠ name)
    (hperm : ((name, json) :: others).Perm fields) :
    ∃ position, occurrences name fields i = [(position, json)] := by
  have hnone : (others.filter fun f => f.1 == name) = [] :=
    List.filter_eq_nil_iff.2 fun f hf => by simpa using hothers f hf
  have hone : (fields.filter fun f => f.1 == name) = [(name, json)] := by
    have hfilter := hperm.filter fun f => f.1 == name
    rw [List.filter_cons, if_pos (beq_self_eq_true name), hnone] at hfilter
    exact (List.singleton_perm.1 hfilter).symm
  have hmap := map_snd_occurrences name fields i
  rw [hone] at hmap
  obtain ⟨⟨position, j⟩, hfound, rfl⟩ := List.map_eq_singleton_iff.1 hmap
  exact ⟨position, hfound⟩

/-! ## Entries of abridgements -/

namespace Schema

variable {S : Schema} {n : Nat}

/-- Of the fields next to one another in an object, none has the name of another slot. -/
theorem AbridgedFields.name_ne {slots : List S.Slot} {written kept aside : List (String × Json)}
    {name : String} (h : S.AbridgedFields slots written kept)
    (hname : name ∉ slots.map Slot.name)
    (haside : ∀ f ∈ aside, f.1 ∉ name :: slots.map Slot.name) :
    ∀ f ∈ aside ++ kept, f.1 ≠ name := by
  rintro f hf rfl
  rcases List.mem_append.1 hf with hf | hf
  · exact haside f hf List.mem_cons_self
  · exact hname (h.name_mem hf)

/-- The entries of some kept fields that stand in an object next to others of other names. -/
theorem AbridgedFields.entries {fields : List (String × Json)}
    (hdepth : ∀ f ∈ fields, f.2.depth ≤ n) : ∀ {slots : List S.Slot}
    {written kept : List (String × Json)}, S.AbridgedFields slots written kept →
    (slots.map Slot.name).Nodup → ∀ aside : List (String × Json),
    (∀ f ∈ aside, f.1 ∉ slots.map Slot.name) → (aside ++ kept).Perm fields →
    S.Entries n fields slots written
  | _, _, _, .nil, _, _, _, _ => trivial
  | _, _, _, @AbridgedFields.keep _ slot _ _ j _ kept hj h, hnodup, aside, haside, hperm => by
    obtain ⟨hslot, hnodup⟩ := List.nodup_cons.1 hnodup
    have hperm : ((slot.name, j) :: (aside ++ kept)).Perm fields :=
      List.perm_middle.symm.trans hperm
    obtain ⟨position, hfound⟩ := Parts.occurrences_eq_singleton (h.name_ne hslot haside) hperm
    have hlevels : j.depth ≤ n := hdepth (slot.name, j) (hperm.subset List.mem_cons_self)
    refine ⟨.kept position j hfound hj hlevels,
      h.entries hdepth hnodup (_ :: aside) (List.forall_mem_cons.2 ⟨hslot, ?_⟩) hperm⟩
    exact fun f hf hmem => haside f hf (List.mem_cons_of_mem _ hmem)
  | _, _, _, @AbridgedFields.drop _ slot _ _ _ _ hd h, hnodup, aside, haside, hperm => by
    obtain ⟨hslot, hnodup⟩ := List.nodup_cons.1 hnodup
    have hnone : ∀ f ∈ fields, f.1 ≠ slot.name := fun f hf =>
      h.name_ne hslot haside f (hperm.mem_iff.2 hf)
    refine ⟨.dropped (Parts.occurrences_eq_nil hnone) hd,
      h.entries hdepth hnodup aside ?_ hperm⟩
    exact fun f hf hmem => haside f hf (List.mem_cons_of_mem _ hmem)

/-- Every field of a record has its entry in an abridgement. -/
theorem Abridged.entries_of_record {r : S.Record} {written : List (String × Json)} {j : Json}
    (h : S.Abridged (.record r) (.object written) j)
    (hnames : written.map Prod.fst = (S.slots r).map Slot.name) (hdepth : j.depth ≤ n + 1) :
    ∃ fields, j = .object fields ∧ S.Entries n fields (S.slots r) written := by
  obtain ⟨kept, fields, rfl, h, hperm⟩ := h.exists_record hnames
  exact ⟨fields, rfl, h.entries (Json.depth_le_of_mem hdepth) (S.names_nodup r) []
    (List.forall_mem_nil _) hperm⟩

/-- In an abridgement of a variant the tag is found, and every field of the variant has its
entry. Without the tag it is an abridgement of the variant's record. -/
theorem Abridged.exists_tagged {u : S.Union} {name : String} {r : S.Record}
    {written : List (String × Json)} {j : Json}
    (h : S.Abridged (.union u) (.object ((S.tag u, .string name) :: written)) j)
    (hr : lookup name (S.variants u) = some r)
    (hnames : written.map Prod.fst = (S.slots r).map Slot.name) (hdepth : j.depth ≤ n + 1) :
    ∃ fields position, j = .object fields ∧
      Parts.occurrences (S.tag u) fields 0 = [(position, .string name)] ∧
      S.Entries n fields (S.slots r) written ∧
      S.Abridged (.record r) (.object written) (.object (without (S.tag u) fields)) := by
  obtain ⟨kept, fields, rfl, h, hperm⟩ := h.exists_variant hr hnames
  have htag := S.tag_notMem u (name, r) (mem_of_lookup hr)
  have hkept : ∀ f ∈ kept, f.1 ≠ S.tag u := h.name_ne htag (List.forall_mem_nil _)
  obtain ⟨position, hfound⟩ := Parts.occurrences_eq_singleton hkept hperm
  refine ⟨fields, position, rfl, hfound, ?_, ?_⟩
  · exact h.entries (Json.depth_le_of_mem hdepth) (S.names_nodup r)
      [(S.tag u, .string name)] (List.forall_mem_singleton.2 htag) hperm
  · have hall : (kept.filter fun f => f.1 != S.tag u) = kept :=
      List.filter_eq_self.2 fun f hf => bne_iff_ne.2 (hkept f hf)
    have hwithout := hperm.filter fun f => f.1 != S.tag u
    rw [List.filter_cons, if_neg (by simp), hall] at hwithout
    exact .record h hwithout

end Schema

end Wire

end SqlAlgebra
