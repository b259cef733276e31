import Mathlib.Data.List.Nodup
import PagedForm.Example
import PagedForm.Proofs.Field.Reloaded
import PagedForm.Proofs.Form.Usable

/-!
# What a presentation schema says

A presentation schema is built by adding the fields of a page one after the other, and one invariant
of this says what it holds: the order of the fields, their widgets, and the text of the submit
button as long as no field takes its key over. `Page.compile_presents_iff` reads this back from the
records of a compiled page, together with the options that the widget and the property of a field
have in common, for every page whose ids are distinct.
-/

namespace PagedForm

/-! ## Records that are read back -/

namespace Value

/-- The part of a record under a name. -/
def part? (value : Value) (name : String) : Option Value :=
  value.record?.bind (find? (.text name))

/-- The values of the options in the record of what a widget is told. -/
def listed? (options : Value) : Option (List Value) := do
  let entries ← options.part? "enumOptions"
  (← entries.list?).mapM fun entry => entry.part? "value"

/-- The values of the options in the record of a widget. -/
def offered? (widget : Value) : Option (List Value) :=
  (widget.part? "ui:options").bind listed?

/-- The values in the record of a property that the answer, or each of its items, is one of. -/
def allowed? (property : Value) : Option (List Value) := do
  let enum ← (property.part? "enum").or ((property.part? "items").bind (·.part? "enum"))
  enum.list?

/-- The part of a record of fields is what its table has there. -/
@[simp] theorem part?_fields (entries : Table Value) (name : String) :
    (fields entries).part? name = Table.find? name entries :=
  find?_fields entries

/-- The values in the records of options are the options. -/
theorem mapM_optionRecords (options : List Value) :
    (optionRecords options).mapM (fun entry => entry.part? "value") = some options := by
  induction options with
  | nil => rfl
  | cons option rest ih =>
      show (optionRecord option option :: optionRecords rest).mapM _ = _
      rw [List.mapM_cons, ih]
      rfl

end Value

/-! ## The options of a field -/

/-- What a select offers before its options: a blank. -/
def Field.blanks (field : Field) : List Value :=
  if field.kind = .select then [.text ""] else []

/-- What a widget is told stands under the options of its record. -/
theorem Widget.part?_options (widget : Widget) :
    widget.toValue.part? "ui:options" = widget.options.map WidgetOptions.toValue := by
  obtain ⟨name, placeholder, readOnly, options⟩ := widget
  unfold toValue
  rw [Value.part?_fields]
  cases placeholder <;> cases readOnly <;> cases options <;> rfl

/-- No widget has the text of a submit button. -/
theorem Widget.part?_submitText (widget : Widget) :
    widget.toValue.part? "submitText" = none := by
  obtain ⟨name, placeholder, readOnly, options⟩ := widget
  unfold toValue
  rw [Value.part?_fields]
  cases placeholder <;> cases readOnly <;> cases options <;> rfl

/-- A choice lists its options. -/
theorem WidgetOptions.listed?_choices (options : List Value) :
    (choices options).toValue.listed? = some options :=
  Value.mapM_optionRecords options

/-- A dropdown lists a blank and its options. -/
theorem WidgetOptions.listed?_dropdown (blank : Value) (options : List Value) :
    (dropdown blank options).toValue.listed? = some (.text "" :: options) := by
  show ((optionRecord (.text "") blank :: optionRecords options).mapM
    fun entry => entry.part? "value") = _
  rw [List.mapM_cons, Value.mapM_optionRecords]
  rfl

/-- The widget of a field offers its options, those of a select after a blank. -/
theorem Widget.offered?_toValue {field : Field} {settings : Settings} {widget : Widget}
    (h : ofField field settings = .ok widget) :
    widget.toValue.offered? = field.options?.map (field.blanks ++ ·) := by
  obtain ⟨options, hoptions, rfl⟩ := Result.map_eq_ok.1 h
  rw [Value.offered?, part?_options]
  dsimp only
  cases field using Field.bodyCases with
  | title | readonly =>
      cases hoptions
      rfl
  | input _ _ _ _ _ _ _ entry =>
      cases entry with
      | text | textarea =>
          cases hoptions
          rfl
      | select options =>
          cases hoptions
          exact WidgetOptions.listed?_dropdown settings.selectPlaceholder options
      | radio options | checkbox options =>
          cases hoptions
          exact WidgetOptions.listed?_choices options
      | file spec =>
          obtain ⟨accept, _, rfl⟩ := Result.map_eq_ok.1 hoptions
          rfl

/-- The options that a property of this shape allows. -/
def PropertyShape.options? : PropertyShape → Option (List Value)
  | .oneOf options | .manyOf options => some options
  | .plain | .file _ => none

/-- The record of a property has the options that its shape allows. -/
theorem Property.allowed?_toValue (property : Property) :
    property.toValue.allowed? = property.shape.options? := by
  obtain ⟨title, shape, initial, readOnly⟩ := property
  unfold toValue Value.allowed?
  rw [Value.part?_fields, Value.part?_fields]
  cases shape <;> cases initial <;> cases readOnly <;> rfl

/-- The property of a field allows its options. -/
theorem Property.options?_ofField {field : Field} {settings : Settings} {property : Property}
    (h : ofField field settings = .ok property) : property.shape.options? = field.options? := by
  obtain ⟨shape, hshape, rfl⟩ := Result.map_eq_ok.1 h
  cases field using Field.bodyCases with
  | title | readonly =>
      cases hshape
      rfl
  | input _ _ _ _ _ _ _ entry =>
      cases entry with
      | text | textarea | select | radio | checkbox =>
          cases hshape
          rfl
      | file spec =>
          obtain ⟨size, _, rfl⟩ := Result.map_eq_ok.1 hshape
          rfl

/-! ## The schemas of a page -/

namespace Presentation

variable {settings : Settings} {presentation next : Presentation} {field : Field}
  {fields : List Field}

/-- What a presentation schema holds once these fields were added: their order, their widgets, and
the text of the submit button if none of them took its key over. -/
structure Holds (settings : Settings) (fields : List Field) (presentation : Presentation) :
    Prop where
  order : presentation.find? orderKey = some (.order (fields.map Field.id))
  widgets : ∀ field ∈ fields, ∃ widget, Widget.ofField field settings = .ok widget ∧
    presentation.find? field.id = some (.widget widget)
  submit : submitKey ∉ fields.map Field.id →
    presentation.find? submitKey = some (.submit settings.submitText)

/-- A field is added by writing its widget under its id and the id at the end of the order, which
its id is not the key of. -/
theorem addField_eq_ok {ids : List String}
    (horder : presentation.find? orderKey = some (.order ids))
    (h : addField settings presentation field = .ok next) :
    ∃ widget, Widget.ofField field settings = .ok widget ∧ field.id ≠ orderKey ∧
      next = (presentation.put field.id (.widget widget)).put orderKey
        (.order (ids ++ [field.id])) := by
  obtain ⟨widget, hwidget, hlist⟩ := Result.bind_eq_ok.1 h
  refine ⟨widget, hwidget, ?_⟩
  unfold listField at hlist
  rw [Table.find?_put] at hlist
  by_cases hkey : orderKey = field.id
  · rw [if_pos hkey] at hlist
    cases hlist
  · rw [if_neg hkey, horder] at hlist
    exact ⟨Ne.symm hkey, (Except.ok.inj hlist).symm⟩

/-- No field that was added has the key of the order as its id. -/
theorem Holds.id_ne_orderKey (h : Holds settings fields presentation) (hfield : field ∈ fields) :
    field.id ≠ orderKey := by
  obtain ⟨widget, _, hshown⟩ := h.widgets field hfield
  intro hkey
  rw [hkey, h.order] at hshown
  cases hshown

/-- What is held by a presentation schema is held, with one more field, once a field with another id
was added. -/
theorem Holds.addField (h : Holds settings fields presentation)
    (hnew : field.id ∉ fields.map Field.id)
    (hnext : addField settings presentation field = .ok next) :
    Holds settings (fields ++ [field]) next := by
  obtain ⟨widget, hwidget, hkey, rfl⟩ := addField_eq_ok h.order hnext
  refine ⟨?_, fun other hother => ?_, fun hsubmit => ?_⟩
  · rw [Table.find?_put, if_pos rfl, List.map_append]
    rfl
  · rcases List.mem_append.1 hother with hold | hadded
    · -- Neither of the two keys that are written is the id of a field that was there.
      obtain ⟨shown, hshown, hfind⟩ := h.widgets other hold
      have hne : other.id ≠ field.id := fun heq => hnew (heq ▸ List.mem_map_of_mem hold)
      refine ⟨shown, hshown, ?_⟩
      rw [Table.find?_put, if_neg (h.id_ne_orderKey hold), Table.find?_put, if_neg hne, hfind]
    · obtain rfl := List.mem_singleton.1 hadded
      refine ⟨widget, hwidget, ?_⟩
      rw [Table.find?_put, if_neg hkey, Table.find?_put, if_pos rfl]
  · rw [List.map_append, List.mem_append, not_or] at hsubmit
    have hfield : submitKey ≠ field.id := by simpa using hsubmit.2
    rw [Table.find?_put, if_neg (by decide), Table.find?_put, if_neg hfield]
    exact h.submit hsubmit.1

/-- Adding fields with distinct ids one after the other keeps what is held. -/
theorem Holds.foldlM {rest : List Field} (h : Holds settings fields presentation)
    (hdistinct : ((fields ++ rest).map Field.id).Nodup)
    (hlast : rest.foldlM (Presentation.addField settings) presentation = .ok next) :
    Holds settings (fields ++ rest) next := by
  -- Each step moves the first of the remaining fields to those that are held.
  induction rest generalizing fields presentation with
  | nil =>
      cases hlast
      rw [List.append_nil]
      exact h
  | cons field rest ih =>
      rw [List.foldlM_cons] at hlast
      obtain ⟨added, hadded, hrest⟩ := Result.bind_eq_ok.1 hlast
      have hnew : field.id ∉ fields.map Field.id := by
        rw [List.map_append, List.map_cons, List.nodup_middle, List.nodup_cons] at hdistinct
        exact fun hmem => hdistinct.1 (List.mem_append_left _ hmem)
      rw [List.append_cons] at hdistinct ⊢
      exact ih (h.addField hnew hadded) hdistinct hrest

/-- The presentation schema of a page with distinct ids holds its fields that take answers. -/
theorem holds_ofPage {page : Page} (hdistinct : page.answerableIds.Nodup)
    (h : ofPage page settings = .ok presentation) :
    Holds settings (page.fields.filter Field.isAnswerable) presentation :=
  Holds.foldlM ⟨rfl, List.forall_mem_nil _, fun _ => rfl⟩ hdistinct h

/-- The part of the record of a presentation schema is its entry as a value. -/
theorem part?_toValue (presentation : Presentation) (name : String) :
    presentation.toValue.part? name =
      (Table.find? name presentation).map PresentationEntry.toValue := by
  unfold toValue
  rw [Value.part?_fields, Table.find?_map]

end Presentation

namespace DataSchema

variable {page : Page} {settings : Settings} {schema : DataSchema}

/-- The properties of fields stand under their ids, in the order of the fields. -/
theorem keys_properties {fields : List Field} {properties : Table Property}
    (h : fields.mapM (fun field =>
      (Property.ofField field settings).map fun property => (field.id, property)) =
        .ok properties) :
    properties.keys = fields.map Field.id := by
  have hpairs := (Result.mapM_eq_ok.1 h).imp fun field entry hentry =>
    show entry.1 = field.id by
      obtain ⟨_, _, rfl⟩ := Result.map_eq_ok.1 hentry
      rfl
  have hmapped : List.Forall₂ (· = ·) properties.keys (fields.map Field.id) :=
    List.forall₂_map_left_iff.2 (List.forall₂_map_right_iff.2 hpairs.flip)
  rwa [List.forall₂_eq_eq_eq] at hmapped

/-- The data schema of a page with distinct ids has the properties of its fields that take answers,
one after the other. -/
theorem properties_ofPage (hdistinct : page.answerableIds.Nodup)
    (h : ofPage page settings = .ok schema) :
    (page.fields.filter Field.isAnswerable).mapM (fun field =>
      (Property.ofField field settings).map fun property => (field.id, property)) =
        .ok schema.properties := by
  obtain ⟨properties, hproperties, heq⟩ := Result.bind_eq_ok.1 h
  cases heq
  have hkeys : Table.keys properties = page.answerableIds := keys_properties hproperties
  dsimp only
  rw [Table.ofEntries_of_nodup (hkeys ▸ hdistinct)]
  exact hproperties

/-- The data schema of a page with distinct ids has the properties of its fields that take answers
under their ids. -/
theorem find?_ofPage (hdistinct : page.answerableIds.Nodup) (h : ofPage page settings = .ok schema)
    {field : Field} (hfield : field ∈ page.fields.filter Field.isAnswerable) :
    ∃ property, Property.ofField field settings = .ok property ∧
      schema.properties.find? field.id = some property := by
  have hproperties := properties_ofPage hdistinct h
  have hkeys : schema.properties.keys = page.answerableIds := keys_properties hproperties
  obtain ⟨entry, hentry, hresult⟩ := Result.exists_mem_of_mapM_eq_ok hproperties hfield
  obtain ⟨property, hproperty, rfl⟩ := Result.map_eq_ok.1 hresult
  exact ⟨property, hproperty, Table.find?_of_mem (hkeys ▸ hdistinct) hentry⟩

/-- The record of a data schema has the record of a property under its key. -/
theorem part?_properties (schema : DataSchema) (id : String) :
    (schema.toValue.part? "properties").bind (·.part? id) =
      (schema.properties.find? id).map Property.toValue := by
  show (Value.fields _).part? id = _
  rw [Value.part?_fields, Table.find?_map]

end DataSchema

/-! ## Compiled pages -/

/-- The records of a compiled page have the widget and the property of a field under its id. The
property allows the options of the field, and the widget offers what the property allows, in a
select after a blank. -/
def CompiledPage.Presents (compiled : CompiledPage) (settings : Settings) (field : Field) : Prop :=
  ∃ widget property, Widget.ofField field settings = .ok widget ∧
    Property.ofField field settings = .ok property ∧
    compiled.presentation.toValue.part? field.id = some widget.toValue ∧
    (compiled.data.toValue.part? "properties").bind (·.part? field.id) = some property.toValue ∧
    property.toValue.allowed? = field.options? ∧
    widget.toValue.offered? = property.toValue.allowed?.map (field.blanks ++ ·)

namespace Page

variable {page : Page} {settings : Settings} {compiled : CompiledPage}

/-- A compiled page has the two schemas and the action of the page, the answers that it starts with,
and the counts of its fields. -/
theorem compile_eq_ok (h : page.compile settings = .ok compiled) :
    DataSchema.ofPage page settings = .ok compiled.data ∧
      Presentation.ofPage page settings = .ok compiled.presentation ∧
      Action.ofPage page = .ok compiled.action ∧
      compiled.answers = Answers.initial page.fields ∧
      compiled.totalFields = page.fields.length ∧
      compiled.requiredFields = page.fields.countP fun field => field.required.truthy := by
  obtain ⟨data, hdata, h⟩ := Result.bind_eq_ok.1 h
  obtain ⟨presentation, hpresentation, h⟩ := Result.bind_eq_ok.1 h
  obtain ⟨action, haction, h⟩ := Result.bind_eq_ok.1 h
  cases h
  exact ⟨hdata, hpresentation, haction, rfl, rfl, rfl⟩

/-- A compiled page has the two schemas of the page. -/
theorem schemas_of_compile (h : page.compile settings = .ok compiled) :
    DataSchema.ofPage page settings = .ok compiled.data ∧
      Presentation.ofPage page settings = .ok compiled.presentation := by
  obtain ⟨hdata, hpresentation, _⟩ := compile_eq_ok h
  exact ⟨hdata, hpresentation⟩

/-- A field that takes an answer is presented by the compiled page. -/
theorem presents_of_holds (hdistinct : page.answerableIds.Nodup)
    (hdata : DataSchema.ofPage page settings = .ok compiled.data)
    (hholds : Presentation.Holds settings (page.fields.filter Field.isAnswerable)
      compiled.presentation) {field : Field}
    (hfield : field ∈ page.fields.filter Field.isAnswerable) :
    compiled.Presents settings field := by
  obtain ⟨widget, hwidget, hshown⟩ := hholds.widgets field hfield
  obtain ⟨property, hproperty, hdescribed⟩ := DataSchema.find?_ofPage hdistinct hdata hfield
  have hallowed : property.toValue.allowed? = field.options? :=
    property.allowed?_toValue.trans (Property.options?_ofField hproperty)
  refine ⟨widget, property, hwidget, hproperty, ?_, ?_, hallowed, ?_⟩
  · rw [Presentation.part?_toValue, hshown]
    rfl
  · rw [DataSchema.part?_properties, hdescribed]
    rfl
  · rw [hallowed]
    exact Widget.offered?_toValue hwidget

/-- The text of the submit button is held exactly when no field took its key over. -/
theorem submitText_iff (hholds : Presentation.Holds settings (page.fields.filter Field.isAnswerable)
      compiled.presentation) :
    (compiled.presentation.toValue.part? Presentation.submitKey).bind (·.part? "submitText") =
        some settings.submitText ↔ Presentation.submitKey ∉ page.answerableIds := by
  rw [Presentation.part?_toValue]
  constructor
  · intro htext hmem
    obtain ⟨field, hfield, hid⟩ := List.mem_map.1 hmem
    obtain ⟨widget, _, hshown⟩ := hholds.widgets field hfield
    rw [← hid, hshown] at htext
    cases widget.part?_submitText.symm.trans htext
  · intro hfree
    rw [hholds.submit hfree]
    rfl

/-- For every page with distinct ids and all settings, the page is compiled exactly when what is
written of it can be and no field that takes an answer has the key of the order as its id. What is
compiled has the ids of these fields, in their order, under that key, and the widget and the
property of each field under its id. It has the text of the submit button exactly when no field has
the key of the submit button as its id. -/
theorem compile_presents_iff (hdistinct : page.fieldIds.Nodup) (settings : Settings) :
    ((∃ compiled, page.compile settings = .ok compiled) ↔
      page.IsWritable settings ∧ Presentation.orderKey ∉ page.answerableIds) ∧
    ∀ compiled, page.compile settings = .ok compiled →
      compiled.presentation.toValue.part? Presentation.orderKey =
        some (.texts page.answerableIds) ∧
      (∀ field ∈ page.fields, field.isAnswerable = true → compiled.Presents settings field) ∧
      ((compiled.presentation.toValue.part? Presentation.submitKey).bind (·.part? "submitText") =
        some settings.submitText ↔ Presentation.submitKey ∉ page.answerableIds) := by
  refine ⟨exists_compile, fun compiled hcompiled => ?_⟩
  have hanswerable : page.answerableIds.Nodup :=
    (List.filter_sublist.map Field.id).nodup hdistinct
  obtain ⟨hdata, hpresentation⟩ := schemas_of_compile hcompiled
  have hholds := Presentation.holds_ofPage hanswerable hpresentation
  refine ⟨?_, fun field hfield htakes => ?_, submitText_iff hholds⟩
  · rw [Presentation.part?_toValue, hholds.order]
    rfl
  · exact presents_of_holds hanswerable hdata hholds (List.mem_filter.2 ⟨hfield, htakes⟩)

/-- The page for electrical issues of the example form is compiled, with its two fields in their
order and with the text of the submit button. -/
theorem compile_presents_electrical :
    Example.electricalDetails.fieldIds.Nodup ∧
      ∃ compiled, Example.electricalDetails.compile .standard = .ok compiled ∧
        compiled.presentation.toValue.part? Presentation.orderKey =
          some (.texts ["panelCondition", "electricalNotes"]) ∧
        (∀ field ∈ Example.electricalDetails.fields, field.isAnswerable = true →
          compiled.Presents .standard field) ∧
        (compiled.presentation.toValue.part? Presentation.submitKey).bind (·.part? "submitText") =
          some (.text "Continue") := by
  have hdistinct : Example.electricalDetails.fieldIds.Nodup := by decide
  obtain ⟨compiled, hcompiled⟩ :
      ∃ compiled, Example.electricalDetails.compile .standard = .ok compiled := ⟨_, rfl⟩
  obtain ⟨horder, hfields, hsubmit⟩ :=
    (compile_presents_iff hdistinct .standard).2 compiled hcompiled
  exact ⟨hdistinct, compiled, hcompiled, horder, hfields, hsubmit.2 (by decide)⟩

/-- A page with one question. -/
def questionPage (id : String) : Page :=
  Example.page 1 "One" "" ""
    [Example.field id "Question" (Example.input (.radio (Example.options ["Yes", "No"])) false)]
    none

/-- A question that has one of the two keys as its id is a field like any other. With the key of the
order its page is not compiled, and with that of the submit button the text of the button is
lost. -/
theorem not_presented_reserved :
    (∀ id ≠ "", ∀ field ∈ (questionPage id).fields, field.IsDefined) ∧
      (questionPage Presentation.orderKey).fieldIds.Nodup ∧
      (questionPage Presentation.orderKey).compile .standard = .error .unsupported ∧
      (questionPage Presentation.submitKey).fieldIds.Nodup ∧
      ∃ compiled, (questionPage Presentation.submitKey).compile .standard = .ok compiled ∧
        (compiled.presentation.toValue.part? Presentation.submitKey).bind
          (·.part? "submitText") = none :=
  ⟨fun _ hid => List.forall_mem_singleton.2 ⟨hid, .absent _⟩, by decide, rfl, by decide, _, rfl,
    rfl⟩

end Page

end PagedForm
