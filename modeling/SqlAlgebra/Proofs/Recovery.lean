import SqlAlgebra.Proofs.Abridgement

/-!
# Readers that see through abridgements

A reader recovers a value from what was written for it if it gives that value for every
abridgement (`Recovers`). Readers of parts that nest are built level by level, so the
abridgements are those of at most some number of levels.

A record is recovered field by field. A field that must be there is read from the value that
stands in its place, and a field with a default is read from that value or takes the default,
which is then what was written (`Entry.required`, `Entry.withDefault`). The fields of a
variant are those of a record next to a tag, so `recovers_variant` rests on the same judgement
`Fills` as `recovers_record`.
-/

namespace SqlAlgebra.Wire

open Schema

variable {α β : Type} {S : Schema} {n : Nat}

/-- The reader gives `a` for every abridgement of `json` that has at most `n` levels. -/
def Recovers (S : Schema) (n : Nat) (read : Reader α) (shape : S.Shape) (json : Json) (a : α) :
    Prop :=
  ∀ inner j, S.Abridged shape json j → j.depth ≤ n → read inner j = .ok a

/-- The reader gives `a` for every object that has an entry for each field of a record, the
record's fields having been written as `written`. -/
structure Fills (S : Schema) (n : Nat) (read : Reader α) (r : S.Record)
    (written : List (String × Json)) (a : α) : Prop where
  names : written.map Prod.fst = (S.slots r).map Slot.name
  read : ∀ inner fields, S.Entries n fields (S.slots r) written →
    read inner (.object fields) = .ok a

/-! ## Fields that are in order -/

/-- All the fields that were looked at are in order, and give a value. -/
def Draft.Gives (d : Draft α) (a : α) : Prop :=
  d = .read a

theorem Draft.Gives.map {d : Draft α} {a : α} (h : d.Gives a) (f : α → β) :
    (f <$> d).Gives (f a) := by
  cases h
  rfl

/-- A draft of a function may be applied to a draft. -/
theorem Draft.Gives.seq {F : Draft (α → β)} {f : α → β} {d : Draft α} {a : α} (hF : F.Gives f)
    (h : d.Gives a) : (F <*> d).Gives (f a) := by
  cases hF
  cases h
  rfl

/-- A record written by names is read as what its parts give. -/
theorem record_eq_ok {wanted : String} {count : Nat} {parts : Parts → Draft α} {inner : Bool}
    {fields : List (String × Json)} {a : α}
    (h : (parts ⟨wanted, count, inner, .named fields⟩).Gives a) :
    record wanted count parts inner (.object fields) = .ok a := by
  rw [record, h]
  rfl

/-! ## Plain values -/

/-- An integer in range is read. -/
theorem integerIn_eq_ok {least greatest i : Int} (wanted : String) (inner : Bool)
    (hleast : least ≤ i) (hgreatest : i ≤ greatest) :
    integerIn least greatest wanted inner (.number (.int i)) = .ok i := by
  rw [integerIn, decide_eq_true hleast, decide_eq_true hgreatest]
  rfl

theorem unsigned64_toNat (wanted : String) (inner : Bool) (u : UInt64) :
    unsigned64 wanted inner (.ofNat u.toNat) = .ok u := by
  have hu : (u.toNat : Int) ≤ UInt64.size - 1 := Int.le_sub_one_of_lt (Int.ofNat_lt.2 u.toNat_lt)
  rw [unsigned64, Json.ofNat, integerIn_eq_ok wanted inner (Int.natCast_nonneg _) hu]
  exact congrArg Except.ok u.ofNat_toNat

theorem integer64_toInt (inner : Bool) (i : Int64) :
    integer64 inner (.ofInt i.toInt) = .ok i := by
  rw [integer64, Json.ofInt, integerIn_eq_ok "i64" inner i.minValue_le_toInt i.toInt_le]
  exact congrArg Except.ok i.ofInt_toInt

/-- The words that stand for different values are told apart. -/
theorem oneWord_name {name : α → String} (inner : Bool) {words : List α}
    (hwords : (words.map name).Nodup) {a : α} (ha : a ∈ words) :
    oneWord words name inner (.string (name a)) = .ok a := by
  have hlookup : lookup (name a) (words.map fun b => (name b, Content.unit b)) =
      some (.unit a) := by
    induction words with
    | nil => cases ha
    | cons b words ih =>
      obtain ⟨hb, hwords⟩ := List.nodup_cons.1 hwords
      rw [List.map_cons, lookup]
      rcases List.mem_cons.1 ha with rfl | ha
      · rw [if_pos (beq_self_eq_true _)]
      · have hne : name b ≠ name a := fun heq => hb (heq ▸ List.mem_map_of_mem ha)
        rw [if_neg (by simpa using hne), ih hwords ha]
  rw [oneWord, choice, hlookup]

/-- A span is read back. -/
theorem span_toJson (inner : Bool) (s : Span) : span inner s.toJson = .ok s := by
  have hstart : size inner (.ofNat s.start.toNat) = .ok s.start := unsigned64_toNat _ _ _
  have hstop : size inner (.ofNat s.stop.toNat) = .ok s.stop := unsigned64_toNat _ _ _
  refine record_eq_ok (Draft.Gives.seq (Draft.Gives.map ?_ Span.mk) ?_)
  · exact congrArg (Draft.ofExcept 0) hstart
  · exact congrArg (Draft.ofExcept 1) hstop

section Values

variable {read : Reader α} {shape : S.Shape} {json : Json} {a : α}

/-- What is recovered from deep values is recovered from shallower ones. -/
theorem Recovers.mono {m : Nat} (h : Recovers S n read shape json a) (hm : m ≤ n) :
    Recovers S m read shape json a :=
  fun inner j hj hdepth => h inner j hj (Nat.le_trans hdepth hm)

theorem Recovers.map (h : Recovers S n read shape json a) (f : α → β) :
    Recovers S n (fun inner json => (read inner json).map f) shape json (f a) := by
  intro inner j hj hdepth
  simp only [h inner j hj hdepth]
  rfl

/-- Nothing has no levels. -/
theorem recovers_zero : Recovers S 0 read shape json a :=
  fun _ j _ hdepth => absurd hdepth (Nat.not_le.2 j.depth_pos)

/-- Nothing can be left out of a plain value. -/
theorem recovers_plain (h : ∀ inner, read inner json = .ok a) :
    Recovers S n read .plain json a := by
  intro inner j hj _
  rw [hj.eq_of_plain]
  exact h inner

theorem recovers_text (s : String) : Recovers S n text .plain (.string s) s :=
  recovers_plain fun _ => rfl

theorem recovers_flag (b : Bool) : Recovers S n flag .plain (.bool b) b :=
  recovers_plain fun _ => rfl

theorem recovers_unsigned64 (wanted : String) (u : UInt64) :
    Recovers S n (unsigned64 wanted) .plain (.ofNat u.toNat) u :=
  recovers_plain fun inner => unsigned64_toNat wanted inner u

/-- A word of a list is recovered if no two of its words are the same. -/
theorem recovers_word {name : α → String} {words : List α} (hwords : (words.map name).Nodup)
    (ha : a ∈ words) : Recovers S n (oneWord words name) .plain (.string (name a)) a :=
  recovers_plain fun inner => oneWord_name inner hwords ha

theorem recovers_joinType (t : JoinType) : Recovers S n joinType .plain (.string t.name) t :=
  recovers_word (by decide) (by cases t <;> decide)

theorem recovers_literal (value : Literal) :
    Recovers S n literal .plain value.toJson value := by
  refine recovers_plain fun inner => ?_
  cases value with
  | integer i => exact congrArg (Except.map Literal.integer) (integer64_toInt inner i)
  | _ => rfl

/-- A list is read item by item. -/
theorem items_eq_ok {f : α → Json} {inner : Bool} : ∀ {as : List α} {js : List Json},
    (∀ a ∈ as, ∀ j, S.Abridged shape (f a) j → j.depth ≤ n → read inner j = .ok a) →
    S.AbridgedItems shape (as.map f) js → (∀ j ∈ js, j.depth ≤ n) →
    items (read inner) js = .ok as
  | [], _, _, .nil, _ => rfl
  | a :: as, _, h, .cons hj hjs, hdepth => by
    obtain ⟨ha, has⟩ := List.forall_mem_cons.1 h
    obtain ⟨hdepthj, hdepth⟩ := List.forall_mem_cons.1 hdepth
    rw [items, ha _ hj hdepthj, items_eq_ok has hjs hdepth]
    rfl

/-- A list is recovered if its items are. -/
theorem recovers_list {f : α → Json} {as : List α}
    (h : ∀ a ∈ as, Recovers S n read shape (f a) a) :
    Recovers S n (listOf read) (.list shape) (.ofList f as) as := by
  intro inner j hj hdepth
  obtain ⟨js, rfl, hjs⟩ := hj.exists_items
  refine items_eq_ok (fun a ha j => h a ha inner j) hjs fun j hj => ?_
  have hitem := Json.depth_le_depthItems hj
  rw [Json.depth] at hdepth
  omega

theorem recovers_texts (ss : List String) :
    Recovers S n (listOf text) .plain (.ofStrings ss) ss :=
  recovers_plain fun inner => recovers_list (S := S) (fun s _ => recovers_text s) inner _
    (.same _ _) (Nat.le_refl _)

/-- An optional value other than `null` is read as the value. -/
theorem optional_eq_map {inner : Bool} (h : json ≠ .null) :
    optional read inner json = (read inner json).map some := by
  cases json with
  | null => exact absurd rfl h
  | _ => rfl

/-- An optional value is recovered if the value is never `null`. -/
theorem recovers_optional {f : α → Json} {o : Option α} (hf : ∀ a, f a ≠ .null)
    (h : ∀ a ∈ o, Recovers S n read shape (f a) a) :
    Recovers S n (optional read) (.optional shape) (.ofOption f o) o := by
  intro inner j hj hdepth
  cases o with
  | none =>
    rw [hj.eq_of_null]
    rfl
  | some a =>
    have hne : j ≠ .null := by
      rintro rfl
      exact hf a hj.eq_null
    rw [optional_eq_map hne, h a rfl inner j hj.of_optional hdepth]
    rfl

end Values

/-! ## Fields -/

namespace Schema.Entry

variable {fields : List (String × Json)} {name wanted : String} {count i : Nat} {inner : Bool}
  {shape : S.Shape} {json : Json} {read : Reader α} {a : α}

/-- A required field is kept, and occurs once. -/
theorem exists_kept (h : S.Entry n fields (.required name shape) json) :
    ∃ position j, Parts.occurrences name fields 0 = [(position, j)] ∧
      S.Abridged shape json j ∧ j.depth ≤ n := by
  cases h with
  | kept position j hfound hj hdepth => exact ⟨position, j, hfound, hj, hdepth⟩
  | dropped _ hd => cases hd

/-- A field that must be there is read from what stands in its place. -/
theorem required (h : S.Entry n fields (.required name shape) json)
    (hread : Recovers S n read shape json a) :
    (Parts.required ⟨wanted, count, inner, .named fields⟩ i name read).Gives a := by
  obtain ⟨position, j, hfound, hj, hdepth⟩ := h.exists_kept
  simp only [Parts.required, Parts.field, hfound, hread inner j hj hdepth]
  rfl

/-- A field with a default is read from what stands in its place. If nothing does, the default
was written, so it is what the field holds. -/
theorem withDefault {d : Default} {default : α} (h : S.Entry n fields ⟨name, shape, some d⟩ json)
    (hread : Recovers S n read shape json a) (hdefault : json = d.json → default = a) :
    (Parts.withDefault ⟨wanted, count, inner, .named fields⟩ i name read default).Gives a := by
  cases h with
  | kept position j hfound hj hdepth =>
    have hfound : Parts.occurrences name fields 0 = [(position, j)] := hfound
    simp only [Parts.withDefault, Parts.field, hfound, hread inner j hj hdepth]
    rfl
  | dropped hfound hd =>
    have hfound : Parts.occurrences name fields 0 = [] := hfound
    have hjson : json = d.json := (Option.some.inj hd).symm
    simp only [Parts.withDefault, Parts.field, hfound, hdefault hjson]
    rfl

theorem text {s : String} (h : S.Entry n fields (.required name .plain) (.string s)) :
    (Parts.required ⟨wanted, count, inner, .named fields⟩ i name Wire.text).Gives s :=
  h.required (recovers_plain fun _ => rfl)

theorem plain {d : Default} {default : α} (h : S.Entry n fields ⟨name, .plain, some d⟩ json)
    (hread : ∀ inner, read inner json = .ok a) (hdefault : read false d.json = .ok default) :
    (Parts.withDefault ⟨wanted, count, inner, .named fields⟩ i name read default).Gives a := by
  refine h.withDefault (recovers_plain hread) fun hjson => ?_
  rw [← hjson, hread false] at hdefault
  exact (Except.ok.inj hdefault).symm

theorem flag {b : Bool} (h : S.Entry n fields (.flag name) (.bool b)) :
    (Parts.withDefault ⟨wanted, count, inner, .named fields⟩ i name Wire.flag false).Gives b :=
  plain h (fun _ => rfl) rfl

theorem span {s : Span} (h : S.Entry n fields .span s.toJson) :
    (Parts.withDefault ⟨wanted, count, inner, .named fields⟩ i "span" Wire.span .zero).Gives s :=
  plain h (fun inner => span_toJson inner s) (span_toJson false .zero)

/-- A field that may be absent is read as absent where it was left out. -/
theorem nullable {f : α → Json} {o : Option α}
    (h : S.Entry n fields (.nullable name shape) (.ofOption f o)) (hf : ∀ a, f a ≠ .null)
    (hread : ∀ a ∈ o, Recovers S n read shape (f a) a) :
    (Parts.withDefault ⟨wanted, count, inner, .named fields⟩ i name (Wire.optional read)
      none).Gives o := by
  refine h.withDefault (recovers_optional hf hread) fun hnull => ?_
  cases o with
  | none => rfl
  | some a => exact absurd hnull (hf a)

theorem optionalText {o : Option String}
    (h : S.Entry n fields (.nullable name .plain) (.ofText? o)) :
    (Parts.withDefault ⟨wanted, count, inner, .named fields⟩ i name (Wire.optional Wire.text)
      none).Gives o :=
  nullable h (fun _ => nofun) fun _ _ => recovers_plain fun _ => rfl

/-- A list that may be left out is read as empty where it was. -/
theorem items {f : α → Json} {as : List α}
    (h : S.Entry n fields (.items name shape) (.ofList f as))
    (hread : ∀ a ∈ as, Recovers S n read shape (f a) a) :
    (Parts.withDefault ⟨wanted, count, inner, .named fields⟩ i name (listOf read) []).Gives as := by
  refine h.withDefault (recovers_list hread) fun hnil => ?_
  cases as with
  | nil => rfl
  | cons a as => cases hnil

end Schema.Entry

/-! ## Records and variants -/

section Parts

variable {read : Reader α} {r : S.Record} {written : List (String × Json)} {a : α}

theorem Fills.map (h : Fills S n read r written a) (f : α → β) :
    Fills S n (fun inner json => (read inner json).map f) r written (f a) where
  names := h.names
  read inner fields hentries := by
    simp only [h.read inner fields hentries]
    rfl

/-- The parts that have one value and its place in the source text. -/
theorem fills_spanned {name wanted : String} {shape : S.Shape} {json : Json} {value : α}
    {read : Reader α} {build : α → Span → β} {s : Span}
    (hslots : S.slots r = Slot.spanned name shape) (h : Recovers S n read shape json value) :
    Fills S n (record wanted 2 fun p =>
        build <$> p.required 0 name read <*> p.withDefault 1 "span" span .zero)
      r [(name, json), ("span", s.toJson)] (build value s) where
  names := by
    rw [hslots]
    rfl
  read inner fields hentries := by
    rw [hslots] at hentries
    obtain ⟨hvalue, hspan, -⟩ := hentries
    exact record_eq_ok (((hvalue.required h).map build).seq hspan.span)

/-- A record is recovered from its fields, with one level more than they have. -/
theorem recovers_record (h : Fills S n read r written a) :
    Recovers S (n + 1) read (.record r) (.object written) a := by
  intro inner j hj hdepth
  obtain ⟨fields, rfl, hentries⟩ := hj.entries_of_record h.names hdepth
  exact h.read inner fields hentries

/-- A record whose parts are recovered up to some level is itself recovered up to that level. -/
theorem Fills.recovers (h : Fills S n read r written a) :
    Recovers S n read (.record r) (.object written) a :=
  (recovers_record h).mono (Nat.le_succ n)

section Variants

variable {u : S.Union} {name wanted : String} {cases : List (String × Reader α)}

/-- The content of a variant is recovered by the reader that the tag selects. -/
theorem recovers_tagged (hr : lookup name (S.variants u) = some r)
    (hread : lookup name cases = some read)
    (hnames : written.map Prod.fst = (S.slots r).map Slot.name)
    (h : Recovers S (n + 1) read (.record r) (.object written) a) :
    Recovers S (n + 1) (tagged (S.tag u) wanted cases) (.union u)
      (.object ((S.tag u, .string name) :: written)) a := by
  intro inner j hj hdepth
  obtain ⟨fields, position, rfl, htag, -, hcontent⟩ := hj.exists_tagged hr hnames hdepth
  have hselected : selected cases inner (.string name) = .ok read := by
    simp only [selected, hread]
  have hlevels : (Json.object (without (S.tag u) fields)).depth ≤ n + 1 :=
    Nat.le_trans (Nat.succ_le_succ (Json.depthFields_filter_le _ fields)) hdepth
  simp only [tagged, htag, hselected, List.isEmpty_nil, if_true]
  exact h true _ hcontent hlevels

/-- A variant is recovered by the reader that its tag calls for. -/
theorem recovers_variant (hr : lookup name (S.variants u) = some r)
    (hread : lookup name cases = some read) (h : Fills S n read r written a) :
    Recovers S (n + 1) (tagged (S.tag u) wanted cases) (.union u)
      (.object ((S.tag u, .string name) :: written)) a :=
  recovers_tagged hr hread h.names (recovers_record h)

end Variants

end Parts

end SqlAlgebra.Wire
