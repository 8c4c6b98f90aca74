import SqlAlgebra.Proofs.Recovery

/-!
# What readers ensure

`Ensures read P` says that whatever a reader gives has the property `P`, for any JSON value at
all: records written by names or by position, variants given by name or by position, with
fields missing or not. A record ensures what its constructor makes of the properties of its
fields (`Draft.GivesOnly.seq`), and a field with a default has the property of what is read or
of the default.
-/

namespace SqlAlgebra.Wire

variable {α β : Type} {P : α → Prop} {Q : β → Prop}

/-- Whatever the reader gives has the property. -/
def Ensures (read : Reader α) (P : α → Prop) : Prop :=
  ∀ inner json a, read inner json = .ok a → P a

/-- Fields that are in order give a value with the property. -/
def Draft.GivesOnly (d : Draft α) (P : α → Prop) : Prop :=
  ∀ a, d.Gives a → P a

theorem exists_of_map_eq_ok {x : Except Fault α} {f : α → β} {b : β} (h : x.map f = .ok b) :
    ∃ a, x = .ok a ∧ f a = b := by
  cases x with
  | ok a => exact ⟨a, rfl, Except.ok.inj h⟩
  | error e => cases h

/-- A draft of a result gives what the result is. -/
theorem Draft.eq_ok_of_ofExcept {position : Nat} {x : Except Fault α} {a : α}
    (h : (ofExcept position x).Gives a) : x = .ok a := by
  cases x <;> cases h
  rfl

/-- A draft gives what its result is. -/
theorem Draft.gives_of_result {d : Draft α} {a : α} (h : d.result = .ok a) : d.Gives a := by
  cases d <;> cases h
  rfl

/-! ## Fields -/

theorem Draft.givesOnly_true (d : Draft α) : d.GivesOnly fun _ => True :=
  fun _ _ => trivial

theorem Draft.GivesOnly.map {d : Draft α} {f : α → β} (h : d.GivesOnly P)
    (hf : ∀ a, P a → Q (f a)) : (f <$> d).GivesOnly Q := by
  intro b hb
  cases d with
  | read a =>
    cases hb
    exact hf a (h a rfl)
  | fault => cases hb

/-- Drafts that give a function and its argument. A fault in either is a fault of the whole. -/
theorem Draft.GivesOnly.seq {F : Draft (α → β)} {d : Draft α}
    (hF : F.GivesOnly fun f => ∀ a, P a → Q (f a)) (h : d.GivesOnly P) :
    (F <*> d).GivesOnly Q := by
  intro b hb
  cases F with
  | read f =>
    cases d with
    | read a =>
      cases hb
      exact hF f rfl a (h a rfl)
    | fault => cases hb
  | fault p e =>
    cases d with
    | read => cases hb
    | fault q e' =>
      change (if q < p then Draft.fault q e' else .fault p e) = .read b at hb
      split at hb <;> cases hb

namespace Parts

variable {read : Reader α} {parts : Parts} {i : Nat} {name : String}

/-- The value of a field is what was read, or one of the two values for missing fields. -/
theorem givesOnly_field {unnamed unlisted : Option α} (h : Ensures read P)
    (hunnamed : ∀ a ∈ unnamed, P a) (hunlisted : ∀ a ∈ unlisted, P a) :
    (parts.field i name read unnamed unlisted).GivesOnly P := by
  intro a ha
  unfold field at ha
  split at ha
  · split at ha
    · split at ha
      · cases ha
        exact hunnamed a rfl
      · cases ha
    · exact h _ _ a (Draft.eq_ok_of_ofExcept ha)
    · split at ha <;> cases ha
  · split at ha
    · exact h _ _ a (Draft.eq_ok_of_ofExcept ha)
    · split at ha
      · cases ha
        exact hunlisted a rfl
      · cases ha

/-- A required field gives only what its reader ensures. -/
theorem givesOnly_required (h : Ensures read P) : (parts.required i name read).GivesOnly P :=
  givesOnly_field h nofun nofun

/-- A field with a default gives what its reader ensures, or the default. -/
theorem givesOnly_withDefault {default : α} (h : Ensures read P) (hdefault : P default) :
    (parts.withDefault i name read default).GivesOnly P := by
  refine givesOnly_field h ?_ ?_ <;>
  · rintro a ⟨⟩
    exact hdefault

end Parts

/-! ## Values -/

section Values

variable {read : Reader α}

/-- An optional value is what its reader ensures, if it is there. -/
theorem ensures_optional (h : Ensures read P) : Ensures (optional read) fun o => ∀ a ∈ o, P a := by
  intro inner json o ho
  by_cases hnull : json = .null
  · subst hnull
    cases ho
    exact nofun
  · rw [optional_eq_map hnull] at ho
    obtain ⟨a, ha, rfl⟩ := exists_of_map_eq_ok ho
    rintro a ⟨⟩
    exact h inner json a ha

theorem forall_mem_of_items {f : Json → Except Fault α} (h : ∀ json a, f json = .ok a → P a) :
    ∀ {values : List Json} {as : List α}, items f values = .ok as → ∀ a ∈ as, P a
  | [], _, has => by
    cases has
    exact nofun
  | json :: values, _, has => by
    rw [items] at has
    split at has
    · cases has
    next a ha =>
      obtain ⟨as, hrest, rfl⟩ := exists_of_map_eq_ok has
      exact List.forall_mem_cons.2 ⟨h json a ha, forall_mem_of_items h hrest⟩

theorem ensures_listOf (h : Ensures read P) : Ensures (listOf read) fun as => ∀ a ∈ as, P a := by
  intro inner json as has
  cases json with
  | array values => exact forall_mem_of_items (h inner) has
  | _ => cases has

/-- A record ensures what its parts give. -/
theorem ensures_record {wanted : String} {count : Nat} {fields : Parts → Draft α}
    (h : ∀ parts, (fields parts).GivesOnly P) : Ensures (record wanted count fields) P := by
  intro inner json a ha
  cases json with
  | object entries => exact h _ a (Draft.gives_of_result ha)
  | array values =>
    unfold record at ha
    dsimp only at ha
    split at ha
    · cases ha
    next hresult =>
      split at ha
      · cases ha
        exact h _ a (Draft.gives_of_result hresult)
      · split at ha <;> cases ha
  | _ => cases ha

/-- A tag selects a reader by its name or by its position. -/
theorem mem_of_selected {cases : List (String × Reader α)} {inner : Bool} {tag : Json}
    (h : selected cases inner tag = .ok read) : ∃ name, (name, read) ∈ cases := by
  unfold selected at h
  split at h
  · split at h
    next hlookup =>
      cases h
      exact ⟨_, mem_of_lookup hlookup⟩
    · cases h
  · split at h
    · cases h
    · split at h
      next hget =>
        cases h
        exact ⟨_, List.mem_of_getElem? hget⟩
      · cases h
  · cases h

/-- The content of a tagged value is read without the tag, so the readers of the variants need
to ensure the property only for objects without a field of that name. -/
theorem ensures_tagged_of_untagged {tag wanted : String} {cases : List (String × Reader α)}
    (h : ∀ c ∈ cases, ∀ inner json a,
      (∀ fields, json = .object fields → ∀ f ∈ fields, f.1 ≠ tag) →
      c.2 inner json = .ok a → P a) : Ensures (tagged tag wanted cases) P := by
  intro inner json a ha
  unfold tagged at ha
  split at ha
  · split at ha
    · cases ha
    · split at ha
      · cases ha
      next hread =>
        obtain ⟨name, hmem⟩ := mem_of_selected hread
        split at ha
        · refine h _ hmem _ _ a ?_ ha
          rintro _ ⟨⟩ f hf
          exact bne_iff_ne.1 (List.mem_filter.1 hf).2
        · cases ha
  · cases ha
  · split at ha
    · cases ha
    next hread =>
      obtain ⟨name, hmem⟩ := mem_of_selected hread
      refine h _ hmem _ _ a ?_ ha
      exact nofun
  · cases ha

/-- A union ensures what all its variants ensure. -/
theorem ensures_tagged {tag wanted : String} {cases : List (String × Reader α)}
    (h : ∀ c ∈ cases, Ensures c.2 P) : Ensures (tagged tag wanted cases) P :=
  ensures_tagged_of_untagged fun c hc inner json a _ => h c hc inner json a

end Values

end SqlAlgebra.Wire
