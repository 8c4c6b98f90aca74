import SqlAlgebra.Conversion.Error
import SqlAlgebra.Proofs.Ensures
import SqlAlgebra.Proofs.Numbering
import SqlAlgebra.Wire.Report

/-!
# Reports and their JSON

The data of a generic context are written side by side with the tag that names the form of the
context. Data with a field of the tag's name would be written as an object with two tags, which
no reader accepts. All other reports are read back, and these are the `Untagged` ones: what is
read is untagged, since the tag is taken away before the data are looked at
(`untagged_of_report`), and so is every report of a failed conversion (`toReport_untagged`).

The parts that a report does not have are left out of it, and a reader takes them to be absent.
So what is written is an abridgement of the `whole` report, in which they are `null`
(`abridged_toJson`), and readers see through abridgements. The code is written as its
text. Other texts denote the code as well, with a plus sign or leading zeros, but the report
that is read has the code and not the text, and is written with the code's own text.

Data by name hold one value for each name. Where an object repeats a name, the last of its fields
is read (`Json.find?_lastOfEach`).

All of this is about JSON values. How a value becomes a text and is parsed again is left out:
how numbers are written, floating-point numbers among the data included, and how deeply a text
may nest.
-/

namespace SqlAlgebra

/-! ## Data by name -/

namespace Json

/-- Fields with different names are all kept. -/
theorem lastOfEach_eq_self :
    ∀ {fields : List (String × Json)}, (fields.map Prod.fst).Nodup → lastOfEach fields = fields
  | [], _ => rfl
  | f :: fields, h => by
    obtain ⟨hnew, hrest⟩ := List.nodup_cons.1 h
    rw [lastOfEach, if_neg hnew, lastOfEach_eq_self hrest]

/-- A field is kept for every name, and for no other. -/
theorem mem_names_lastOfEach {name : String} : ∀ {fields : List (String × Json)},
    name ∈ (lastOfEach fields).map Prod.fst ↔ name ∈ fields.map Prod.fst
  | [] => .rfl
  | f :: fields => by
    have ih : _ ↔ name ∈ fields.map Prod.fst := mem_names_lastOfEach
    rw [lastOfEach]
    split
    · rename_i hagain
      rw [ih, List.map_cons, List.mem_cons]
      exact ⟨.inr, fun h => h.elim (fun heq => heq ▸ hagain) id⟩
    · rw [List.map_cons, List.map_cons, List.mem_cons, List.mem_cons, ih]

/-- The field that is found under a name is the last one that was written. -/
theorem find?_lastOfEach (name : String) : ∀ fields : List (String × Json),
    (lastOfEach fields).find? (·.1 == name) = fields.reverse.find? (·.1 == name)
  | [] => rfl
  | f :: fields => by
    rw [List.reverse_cons, List.find?_append, ← find?_lastOfEach name fields, lastOfEach]
    split
    · rename_i hagain
      by_cases hname : f.1 = name
      · obtain ⟨g, hg, hgname⟩ := List.mem_map.1 (mem_names_lastOfEach.2 hagain)
        have hsome : ((lastOfEach fields).find? (·.1 == name)).isSome :=
          List.find?_isSome.2 ⟨g, hg, beq_iff_eq.2 (hgname.trans hname)⟩
        rw [Option.or_of_isSome hsome]
      · simp [hname]
    · rename_i hnew
      by_cases hname : f.1 = name
      · subst hname
        have hnone : (lastOfEach fields).find? (·.1 == f.1) = none :=
          List.find?_eq_none.2 fun g hg hgname =>
            hnew (mem_names_lastOfEach.1 (List.mem_map.2 ⟨g, hg, beq_iff_eq.1 hgname⟩))
        simp [hnone]
      · simp [hname]

end Json

theorem NamedData.ofFields_fields (data : NamedData) : ofFields data.fields = data := by
  obtain ⟨fields, nodup⟩ := data
  simp only [ofFields, Json.lastOfEach_eq_self nodup]

/-! ## Reports that can be written -/

/-- The context has no data under the name of the tag that is written next to them. -/
def ErrorContext.Untagged : ErrorContext → Prop
  | generic data => ∀ f ∈ data.fields, f.1 ≠ "type"
  | segment .. | operator .. | recursion _ | config .. => True

/-- The context of a report, if it has one, leaves the name of the tag alone. -/
def Report.Untagged (r : Report) : Prop :=
  ∀ c ∈ r.context, c.Untagged

/-- The reports of conversions say where and in what they failed, each in a form of its own. -/
theorem ConvertError.toReport_untagged (e : ConvertError) : e.toReport.Untagged := by
  cases e <;> rintro c ⟨⟩ <;> trivial

namespace Wire

/-! ## The schema of reports -/

/-- The objects that reports are written as. -/
inductive ReportRecord
  | report | segment | operator | recursion | config

/-- The fields of every record, with those that may be left out. -/
def ReportRecord.slots : ReportRecord → List (Slot ReportRecord Unit)
  | report =>
    [.required "code" .plain, .required "message" .plain, .nullable "context" (.union ()),
      .nullable "hint" .plain, .nullable "trace_id" .plain]
  | segment =>
    [.required "kind" .plain, .required "start" .plain, .required "stop" .plain,
      .required "path" .plain]
  | operator =>
    [.required "operator" .plain, .required "expression" .plain, .required "supported" .plain]
  | recursion => [.required "limit" .plain]
  | config => [.nullable "file_path" .plain, .nullable "field" .plain]

/-- The parts of reports. Generic contexts have no declared fields, so they are not among the
variants of contexts: nothing may be left out of them. -/
def reports : Schema where
  Record := ReportRecord
  Union := Unit
  slots := ReportRecord.slots
  tag _ := "type"
  variants _ :=
    [("segment", .segment), ("operator", .operator), ("recursion", .recursion),
      ("config", .config)]
  names_nodup r := by cases r <;> decide
  tag_notMem _ := by decide

end Wire

/-- All fields of a report, with `null` for what it does not have. -/
def Report.whole (r : Report) : List (String × Json) :=
  [("code", .string r.code.text), ("message", .string r.message),
    ("context", .ofOption ErrorContext.toJson r.context), ("hint", .ofText? r.hint),
    ("trace_id", .ofText? r.traceId)]

namespace Wire

open Schema

/-- A part that is absent may be written as `null` or left out. -/
theorem abridgedFields_nullable {S : Schema} {slots : List S.Slot}
    {fields kept : List (String × Json)} (name : String) (shape : S.Shape) (f : α → Json)
    (o : Option α) (h : S.AbridgedFields slots fields kept) :
    S.AbridgedFields (.nullable name shape :: slots) ((name, .ofOption f o) :: fields)
      (o.toList.map (fun a => (name, f a)) ++ kept) := by
  cases o with
  | none => exact .drop rfl h
  | some a => exact .keep (.same _ _) h

/-- What is written for a report is the whole report without the parts that are absent. -/
theorem abridged_toJson (r : Report) :
    reports.Abridged (.record ReportRecord.report) (.object r.whole) r.toJson := by
  have hfields : r.fields = ("code", .string r.code.text) :: ("message", .string r.message) ::
      (r.context.toList.map (fun c => ("context", c.toJson)) ++
        (r.hint.toList.map (fun h => ("hint", .string h)) ++
          (r.traceId.toList.map (fun t => ("trace_id", .string t)) ++ []))) := by
    simp [Report.fields]
  have hoptional := abridgedFields_nullable "context" (.union ()) ErrorContext.toJson r.context
    (abridgedFields_nullable "hint" .plain .string r.hint
      (abridgedFields_nullable "trace_id" .plain .string r.traceId
        (AbridgedFields.nil (S := reports))))
  rw [Report.toJson, hfields]
  exact .record (.keep (.same _ _) (.keep (.same _ _) hoptional)) (.refl _)

/-! ## Untagged reports are read back -/

/-- A code is read back from its text. -/
theorem errorCode_text (inner : Bool) (code : ErrorCode) :
    errorCode inner (.string code.text) = .ok code := by
  simp only [errorCode, text, ErrorCode.parse_text]

namespace Schema.Entry

variable {S : Schema} {n count i : Nat} {fields : List (String × Json)} {name wanted : String}
  {inner : Bool} {shape : S.Shape}

/-- In a record written by names, an optional field is one that is absent by default. -/
theorem gives_nullable {read : Reader α} {f : α → Json} {o : Option α}
    (h : S.Entry n fields (.nullable name shape) (.ofOption f o)) (hf : ∀ a, f a ≠ .null)
    (hread : ∀ a ∈ o, Recovers S n read shape (f a) a) :
    (Parts.nullable ⟨wanted, count, inner, .named fields⟩ i name read).Gives o :=
  h.nullable (i := i) hf hread

theorem gives_nullableText {o : Option String}
    (h : S.Entry n fields (.nullable name .plain) (.ofText? o)) :
    (Parts.nullable ⟨wanted, count, inner, .named fields⟩ i name Wire.text).Gives o :=
  h.optionalText (i := i)

end Schema.Entry

theorem recovers_segment (n : Nat) (kind : String) (start stop : UInt64) (path : List String) :
    Recovers reports (n + 1) errorContext (.union ())
      (ErrorContext.segment kind start stop path).toJson (.segment kind start stop path) := by
  refine recovers_variant (r := ReportRecord.segment) rfl rfl ⟨rfl, fun inner fields h => ?_⟩
  obtain ⟨gkind, gstart, gstop, gpath, -⟩ := h
  exact record_eq_ok ((((gkind.text.map ErrorContext.segment).seq
    (gstart.required (recovers_unsigned64 "usize" start))).seq
    (gstop.required (recovers_unsigned64 "usize" stop))).seq
    (gpath.required (recovers_texts path)))

theorem recovers_operator (n : Nat) (op expression : String) (supported : List String) :
    Recovers reports (n + 1) errorContext (.union ())
      (ErrorContext.operator op expression supported).toJson
      (.operator op expression supported) := by
  refine recovers_variant (r := ReportRecord.operator) rfl rfl ⟨rfl, fun inner fields h => ?_⟩
  obtain ⟨gop, gexpression, gsupported, -⟩ := h
  exact record_eq_ok (((gop.text.map ErrorContext.operator).seq gexpression.text).seq
    (gsupported.required (recovers_texts supported)))

theorem recovers_recursion (n : Nat) (limit : UInt64) :
    Recovers reports (n + 1) errorContext (.union ()) (ErrorContext.recursion limit).toJson
      (.recursion limit) := by
  refine recovers_variant (r := ReportRecord.recursion) rfl rfl ⟨rfl, fun inner fields h => ?_⟩
  exact record_eq_ok ((h.1.required (recovers_unsigned64 "usize" limit)).map
    ErrorContext.recursion)

/-- The context of a setting is recovered, with or without its file and field. -/
theorem recovers_config (n : Nat) (filePath field : Option String) :
    Recovers reports (n + 1) errorContext (.union ()) (ErrorContext.config filePath field).toJson
      (.config filePath field) := by
  refine recovers_variant (r := ReportRecord.config) rfl rfl ⟨rfl, fun inner fields h => ?_⟩
  obtain ⟨gpath, gfield, -⟩ := h
  exact record_eq_ok ((gpath.gives_nullableText.map ErrorContext.config).seq
    gfield.gives_nullableText)

/-- Data without the tag are what is left when the tag is taken away. -/
theorem errorContext_generic {data : NamedData} (inner : Bool)
    (h : (ErrorContext.generic data).Untagged) :
    errorContext inner (ErrorContext.generic data).toJson = .ok (.generic data) := by
  have htag : Parts.occurrences "type" (("type", .string "generic") :: data.fields) 0 =
      [(0, .string "generic")] :=
    congrArg ((0, Json.string "generic") :: ·) (Parts.occurrences_eq_nil h)
  have hdata : without "type" (("type", .string "generic") :: data.fields) = data.fields := by
    rw [without, List.filter_cons, if_neg (by simp)]
    exact List.filter_eq_self.2 fun f hf => bne_iff_ne.2 (h f hf)
  simp only [errorContext, ErrorContext.toJson, tagged, htag, hdata]
  exact congrArg (fun data => Except.ok (ErrorContext.generic data)) data.ofFields_fields

/-- Nothing can be left out of a generic context, as it is no variant with declared fields. -/
theorem recovers_generic (n : Nat) {data : NamedData}
    (h : (ErrorContext.generic data).Untagged) :
    Recovers reports n errorContext (.union ()) (ErrorContext.generic data).toJson
      (.generic data) := by
  intro inner j hj _
  have hj : j = (ErrorContext.generic data).toJson := by
    rw [ErrorContext.toJson] at hj ⊢
    cases hj with
    | same => rfl
    | variant hr => cases hr
  rw [hj]
  exact errorContext_generic inner h

/-- Every untagged context is recovered. -/
theorem recovers_errorContext (n : Nat) (c : ErrorContext) (h : c.Untagged) :
    Recovers reports n errorContext (.union ()) c.toJson c := by
  refine Recovers.mono (?_ : Recovers reports (n + 1) _ _ _ c) (Nat.le_succ n)
  cases c with
  | segment kind start stop path => exact recovers_segment n kind start stop path
  | operator op expression supported => exact recovers_operator n op expression supported
  | recursion limit => exact recovers_recursion n limit
  | config filePath field => exact recovers_config n filePath field
  | generic data => exact recovers_generic (n + 1) h

theorem errorContext_ne_null (c : ErrorContext) : c.toJson ≠ .null := by
  cases c <;> nofun

/-- An untagged report is filled in from its fields. -/
theorem fills_report (n : Nat) (r : Report) (h : r.Untagged) :
    Fills reports n report ReportRecord.report r.whole r where
  names := rfl
  read inner fields hentries := by
    obtain ⟨gcode, gmessage, gcontext, ghint, gtrace, -⟩ := hentries
    have hcode : Recovers reports n errorCode .plain (.string r.code.text) r.code :=
      recovers_plain fun inner => errorCode_text inner r.code
    have hcontext : ∀ c ∈ r.context, Recovers reports n errorContext (.union ()) c.toJson c :=
      fun c hc => recovers_errorContext n c (h c hc)
    exact record_eq_ok ((((((gcode.required hcode).map Report.mk).seq gmessage.text).seq
      (gcontext.gives_nullable errorContext_ne_null hcontext)).seq ghint.gives_nullableText).seq
      gtrace.gives_nullableText)

/-- An untagged report is read from its whole form with any of its absent parts left out, in any
order. -/
theorem report_eq_ok {r : Report} (h : r.Untagged) (inner : Bool) {json : Json}
    (hjson : reports.Abridged (.record ReportRecord.report) (.object r.whole) json) :
    report inner json = .ok r :=
  (fills_report json.depth r h).recovers inner json hjson (Nat.le_refl _)

/-! ## Only untagged reports are read -/

theorem givesOnly_nullable {P : α → Prop} {read : Reader α} {parts : Parts} {i : Nat}
    {name : String} (h : Ensures read P) :
    (parts.nullable i name read).GivesOnly fun o => ∀ a ∈ o, P a :=
  Parts.givesOnly_field (ensures_optional h) (by rintro _ ⟨⟩; exact nofun) nofun

/-- Only untagged contexts are read. -/
theorem ensures_errorContext : Ensures errorContext ErrorContext.Untagged := by
  refine ensures_tagged_of_untagged ?_
  simp only [List.forall_mem_cons]
  refine ⟨?segment, ?operator, ?recursion, ?config, ?generic, List.forall_mem_nil _⟩
  case generic =>
    intro inner json c huntagged hc
    obtain ⟨data, hdata, rfl⟩ := exists_of_map_eq_ok hc
    cases json <;> cases hdata
    exact fun f hf => huntagged _ rfl f ((Json.lastOfEach_sublist _).subset hf)
  all_goals
    intro inner json c _ hc
    refine ensures_record (P := ErrorContext.Untagged) (fun parts => ?_) inner json c hc
  case segment =>
    exact ((((Draft.givesOnly_true _).map fun _ _ _ _ _ _ _ _ => trivial).seq
      (Draft.givesOnly_true _)).seq (Draft.givesOnly_true _)).seq (Draft.givesOnly_true _)
  case operator =>
    exact (((Draft.givesOnly_true _).map fun _ _ _ _ _ _ => trivial).seq
      (Draft.givesOnly_true _)).seq (Draft.givesOnly_true _)
  case recursion => exact (Draft.givesOnly_true _).map fun _ _ => trivial
  case config =>
    exact ((Draft.givesOnly_true _).map fun _ _ _ _ => trivial).seq (Draft.givesOnly_true _)

/-- Only untagged reports are read. -/
theorem untagged_of_report {inner : Bool} {json : Json} {r : Report}
    (h : report inner json = .ok r) : r.Untagged := by
  refine ensures_record (P := Report.Untagged) (fun parts => ?_) inner json r h
  exact (((((Draft.givesOnly_true _).map fun _ _ _ _ c hc _ _ _ _ => hc).seq
    (Draft.givesOnly_true _)).seq (givesOnly_nullable ensures_errorContext)).seq
    (Draft.givesOnly_true _)).seq (Draft.givesOnly_true _)

/-- Untagged reports, and no others, are read back from the JSON value that is written for them.
Only untagged reports are read at all, so writing and reading again what was read changes nothing,
however the code was spelled and whatever was left out. The reports of failed conversions are
untagged. The texts of the values are not looked at. -/
theorem report_codec (inner : Bool) :
    (∀ r : Report, report inner r.toJson = .ok r ↔ r.Untagged) ∧
      (∀ json r, report inner json = .ok r → r.Untagged ∧ report inner r.toJson = .ok r) ∧
      ∀ e : ConvertError, e.toReport.Untagged := by
  have hback : ∀ r : Report, r.Untagged → report inner r.toJson = .ok r := fun r h =>
    report_eq_ok h inner (abridged_toJson r)
  refine ⟨fun r => ⟨untagged_of_report, hback r⟩, fun json r h => ?_,
    ConvertError.toReport_untagged⟩
  have huntagged := untagged_of_report h
  exact ⟨huntagged, hback r huntagged⟩

/-- A report whose code is spelled with a sign and a leading zero, and with data of its own. The
line is given twice, and the second time counts. -/
theorem report_codec_spelled :
    let data : NamedData := ⟨[("line", .ofNat 3)], by decide⟩
    let json : Json := .object [("context", .object [("type", .string "generic"),
        ("line", .ofNat 2), ("line", .ofNat 3)]),
      ("code", .string "SQLFED-+02001"), ("message", .string "no source")]
    let r : Report := ⟨.malformedSegment, "no source", some (.generic data), none, none⟩
    report false json = .ok r ∧ r.Untagged ∧ report false r.toJson = .ok r := by
  intro data json r
  have h : report false json = .ok r := rfl
  exact ⟨h, (report_codec false).2.1 json r h⟩

end Wire

end SqlAlgebra
