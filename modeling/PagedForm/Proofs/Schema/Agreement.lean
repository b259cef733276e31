import PagedForm.Proofs.Field.Shape
import PagedForm.Proofs.Schema.Presentation

/-!
# What a page says about its answers

The data schema of a page, the answers that the page starts with and the count of its required
fields go through the fields on their own. On a page with distinct ids they speak of the same fields
in the same order, and where the data schema has a default it is the answer that the field starts
with.
-/

namespace PagedForm

/-! ## Properties -/

/-- The property of a field has a default exactly when the field has one and is not a read-only
text: the answer that the field starts with. -/
theorem Property.initial_ofField {field : Field} {settings : Settings} {property : Property}
    (h : ofField field settings = .ok property) {value : Value} :
    property.initial = some value ↔
      field.initial ≠ .absent ∧ field.kind ≠ .readonly ∧ field.initialAnswer = value := by
  obtain ⟨shape, _, rfl⟩ := Result.map_eq_ok.1 h
  dsimp only
  rw [Option.ite_none_right_eq_some, Bool.and_eq_true, Default.isGiven_iff, bne_iff_ne,
    Option.some.injEq, and_assoc]

/-- The record of a property has its default. -/
theorem Property.part?_default (property : Property) :
    property.toValue.part? "default" = property.initial := by
  obtain ⟨title, shape, initial, readOnly⟩ := property
  unfold toValue
  rw [Value.part?_fields]
  cases shape <;> cases initial <;> cases readOnly <;> rfl

/-- The default under an id in the record of a data schema. -/
def DataSchema.defaultAt? (schema : DataSchema) (id : String) : Option Value :=
  ((schema.toValue.part? "properties").bind (·.part? id)).bind (·.part? "default")

/-- The default under an id is that of the property. -/
theorem DataSchema.defaultAt?_eq {schema : DataSchema} {id : String} {property : Property}
    (h : schema.properties.find? id = some property) : schema.defaultAt? id = property.initial := by
  rw [defaultAt?, part?_properties, h]
  exact property.part?_default

/-! ## Required fields -/

/-- A heading does not have to be answered. -/
theorem Field.isAnswerable_of_required {field : Field} (h : field.required.truthy = true) :
    field.isAnswerable = true := by
  cases field using Field.bodyCases with
  | title => cases h
  | readonly => rfl
  | input _ _ _ _ _ _ _ entry => cases entry <;> rfl

/-- The fields of a page that have to be answered. -/
def Page.requiredFields (page : Page) : List Field :=
  page.fields.filter fun field => field.required.truthy

/-- The fields that have to be answered are among those that take answers. -/
theorem Page.requiredFields_eq (page : Page) :
    (page.fields.filter Field.isAnswerable).filter (fun field => field.required.truthy) =
      page.requiredFields := by
  rw [List.filter_filter]
  refine List.filter_congr fun field _ => ?_
  rw [Bool.and_eq_left_iff_imp]
  exact Field.isAnswerable_of_required

/-- A data schema requires the fields that have to be answered. -/
theorem DataSchema.required_ofPage {page : Page} {settings : Settings} {schema : DataSchema}
    (h : ofPage page settings = .ok schema) :
    schema.required = page.requiredFields.map Field.id := by
  obtain ⟨_, _, heq⟩ := Result.bind_eq_ok.1 h
  cases heq
  rw [← page.requiredFields_eq]

/-! ## First answers -/

namespace Answers

variable {page : Page}

/-- The answers that a page with distinct ids starts with are those of its fields, one after the
other. -/
theorem initial_eq (hdistinct : page.answerableIds.Nodup) :
    initial page.fields =
      (page.fields.filter Field.isAnswerable).map fun field => (field.id, field.initialAnswer) := by
  refine Table.ofEntries_of_nodup ?_
  rw [Table.keys, List.map_map]
  exact hdistinct

/-- A page with distinct ids starts with an answer to each field that takes one, in the order of the
fields. -/
theorem keys_initial (hdistinct : page.answerableIds.Nodup) :
    (initial page.fields).keys = page.answerableIds := by
  rw [initial_eq hdistinct, Table.keys, List.map_map]
  rfl

/-- A page with distinct ids starts with the first answer of each field under its id. -/
theorem find?_initial (hdistinct : page.answerableIds.Nodup) {field : Field}
    (hfield : field ∈ page.fields.filter Field.isAnswerable) :
    (initial page.fields).find? field.id = some field.initialAnswer := by
  have hkeys : (initial page.fields).keys.Nodup := by
    rw [keys_initial hdistinct]
    exact hdistinct
  refine Table.find?_of_mem hkeys ?_
  rw [initial_eq hdistinct]
  exact List.mem_map_of_mem hfield

end Answers

/-- A data schema and some answers agree on a field. The field is answered by its default or, when
it has none, by the empty answer of its kind. The data schema has a default for it exactly when the
field has one and is not a read-only text, and then it is the answer. -/
structure DataSchema.AgreesOn (schema : DataSchema) (answers : Answers) (field : Field) : Prop where
  given : field.initial ≠ .absent → answers.find? field.id = some field.initial.toAnswer
  empty : field.initial = .absent → answers.find? field.id = some field.shape.empty
  default : ∀ value, schema.defaultAt? field.id = some value ↔
    field.initial ≠ .absent ∧ field.kind ≠ .readonly ∧ answers.find? field.id = some value

namespace Page

variable {page : Page} {settings : Settings}

/-- The data schema of a page with distinct ids agrees with the answers that the page starts with on
every field that takes an answer. -/
theorem agreesOn_initial (hdistinct : page.answerableIds.Nodup) {schema : DataSchema}
    (h : DataSchema.ofPage page settings = .ok schema) {field : Field}
    (hfield : field ∈ page.fields.filter Field.isAnswerable) :
    schema.AgreesOn (Answers.initial page.fields) field := by
  -- Both look-ups are by the id, under which no other field is.
  obtain ⟨property, hproperty, hfind⟩ := DataSchema.find?_ofPage hdistinct h hfield
  have hanswer := Answers.find?_initial hdistinct hfield
  refine ⟨fun hgiven => ?_, fun hnone => ?_, fun value => ?_⟩
  · rw [hanswer, Field.initialAnswer, if_pos (Default.isGiven_iff.2 hgiven)]
  · rw [hanswer, Field.initialAnswer_of_absent hnone]
  · rw [DataSchema.defaultAt?_eq hfind, Property.initial_ofField hproperty, hanswer,
      Option.some.injEq]

/-- Whatever the settings, a page with distinct ids starts with one answer for each field but the
headings, in their order, and has a data schema exactly when its size limits can be written. The
data schema has one property for each of these fields, in the same order, requires the required ones
among them, and agrees with the answers on each. A page that is compiled has this data schema and
these answers, and counts as many required fields as the data schema requires. -/
theorem schema_agrees_with_answers (hdistinct : page.fieldIds.Nodup) (settings : Settings) :
    (Answers.initial page.fields).keys = page.answerableIds ∧
    ((∃ schema, DataSchema.ofPage page settings = .ok schema) ↔
      page.HasWritableLimits settings) ∧
    (∀ schema, DataSchema.ofPage page settings = .ok schema →
      schema.properties.keys = page.answerableIds ∧
      schema.required = page.requiredFields.map Field.id ∧
      schema.required.Sublist page.answerableIds ∧
      ∀ field ∈ page.fields, field.isAnswerable = true →
        schema.AgreesOn (Answers.initial page.fields) field) ∧
    ((∃ compiled, page.compile settings = .ok compiled) ↔
      page.IsWritable settings ∧ Presentation.orderKey ∉ page.answerableIds) ∧
    ∀ compiled, page.compile settings = .ok compiled →
      DataSchema.ofPage page settings = .ok compiled.data ∧
      compiled.answers = Answers.initial page.fields ∧
      compiled.requiredFields = compiled.data.required.length := by
  have hanswerable : page.answerableIds.Nodup :=
    (List.filter_sublist.map Field.id).nodup hdistinct
  refine ⟨Answers.keys_initial hanswerable, DataSchema.exists_ofPage, fun schema hschema => ?_,
    exists_compile, fun compiled hcompiled => ?_⟩
  · have hrequired := DataSchema.required_ofPage hschema
    refine ⟨DataSchema.keys_properties (DataSchema.properties_ofPage hanswerable hschema),
      hrequired, ?_, fun field hfield htakes =>
        agreesOn_initial hanswerable hschema (List.mem_filter.2 ⟨hfield, htakes⟩)⟩
    rw [hrequired, ← page.requiredFields_eq]
    exact List.filter_sublist.map Field.id
  · obtain ⟨hdata, _, _, hanswers, _, hcount⟩ := compile_eq_ok hcompiled
    refine ⟨hdata, hanswers, ?_⟩
    rw [hcount, DataSchema.required_ofPage hdata, List.length_map, requiredFields,
      List.countP_eq_length_filter]

/-- The first page of the example form has a heading, a read-only text with a default and an input
with one. Its data schema has a default for the input only. -/
theorem schema_agrees_with_answers_job :
    Example.jobDetails.fieldIds.Nodup ∧
      ∃ compiled, Example.jobDetails.compile .standard = .ok compiled ∧
        compiled.data.properties.keys =
          ["scopeOfWork", "technicianName", "siteAccess", "accessNotes"] ∧
        compiled.answers.keys = compiled.data.properties.keys ∧
        compiled.data.required = ["technicianName", "siteAccess", "accessNotes"] ∧
        compiled.requiredFields = 3 ∧
        (∀ field ∈ Example.jobDetails.fields, field.isAnswerable = true →
          compiled.data.AgreesOn compiled.answers field) ∧
        compiled.data.defaultAt? "scopeOfWork" = none ∧
        compiled.answers.find? "scopeOfWork" = some (.text "#workorder.scopeOfWork") ∧
        compiled.data.defaultAt? "technicianName" = some (.text "#technician.name") := by
  have hdistinct : Example.jobDetails.fieldIds.Nodup := by decide
  obtain ⟨compiled, hcompiled⟩ :
      ∃ compiled, Example.jobDetails.compile .standard = .ok compiled := ⟨_, rfl⟩
  obtain ⟨hanswers, _, hschema, _, hparts⟩ := schema_agrees_with_answers hdistinct .standard
  obtain ⟨hdata, hinitial, hcount⟩ := hparts compiled hcompiled
  obtain ⟨hkeys, hrequired, _, hagrees⟩ := hschema compiled.data hdata
  rw [← hinitial] at hanswers hagrees
  refine ⟨hdistinct, compiled, hcompiled, hkeys, hanswers.trans hkeys.symm, hrequired, ?_, hagrees,
    ?_, ?_, ?_⟩
  · rw [hcount, hrequired]
    rfl
  all_goals
    cases hcompiled
    rfl

end Page

end PagedForm
