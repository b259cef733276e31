import PagedForm.Form.Basic
import PagedForm.Settings.Basic

/-!
# Presentation schemas

The presentation schema of a page says how each field is entered, in which order the fields stand,
and what the submit button says. All of this shares one table, so a field whose id is one of the
two reserved keys takes that key over; when it takes over the order, no further field can be
listed there.
-/

namespace PagedForm

/-- What the widget of a field is told besides its name. -/
inductive WidgetOptions where
  | dropdown (blank : Value) (options : List Value)
  | choices (options : List Value)
  | rows (count : Value)
  | files (accept : String) (multiple : Value)
  deriving Repr

/-- How one field is entered. -/
structure Widget where
  name : String
  placeholder : Option Value
  readOnly : Bool
  options : Option WidgetOptions
  deriving Repr

/-- An entry of a presentation schema. -/
inductive PresentationEntry where
  | order (ids : List String)
  | submit (label : Value)
  | widget (w : Widget)
  deriving Repr

/-- How the fields of a page are entered. -/
abbrev Presentation := Table PresentationEntry

/-- The key of the order of the fields. -/
def Presentation.orderKey : String := "ui:order"

/-- The key of the submit button. -/
def Presentation.submitKey : String := "ui:submitButtonOptions"

/-- The name of the widget for a kind. -/
def FieldKind.widgetName : FieldKind → String
  | .textarea | .readonly => "textarea"
  | .select => "select"
  | .radio => "radio"
  | .checkbox => "checkboxes"
  | .file => "file"
  | .text | .title => "text"

/-- The patterns of accepted types in one text; none accept everything. -/
def UploadSpec.accept (spec : UploadSpec) : Result String :=
  (Value.joinTexts "," spec.acceptedTypes).map fun joined =>
    if joined.isEmpty then "*/*" else joined

/-- What the widget of a field is told. -/
def WidgetOptions.ofField (field : Field) (settings : Settings) :
    Result (Option WidgetOptions) :=
  match field.body with
  | .input ⟨_, _, _, .select options⟩ =>
      .ok (some (.dropdown settings.selectPlaceholder options))
  | .input ⟨_, _, _, .radio options⟩ => .ok (some (.choices options))
  | .input ⟨_, _, _, .checkbox options⟩ => .ok (some (.choices options))
  | .input ⟨_, _, _, .textarea _⟩ => .ok (some (.rows settings.textareaRows))
  | .input ⟨_, _, _, .file spec⟩ =>
      spec.accept.map fun accept => some (.files accept spec.multiple)
  | _ => .ok none

/-- The widget of a field. -/
def Widget.ofField (field : Field) (settings : Settings) : Result Widget :=
  (WidgetOptions.ofField field settings).map fun options =>
    { name := field.kind.widgetName
      placeholder := field.placeholder?.filter Value.truthy
      readOnly := field.readOnly.truthy
      options := options }

namespace Presentation

/-- List a field at the end of the order. -/
def listField (presentation : Presentation) (id : String) : Result Presentation :=
  match presentation.find? orderKey with
  | some (.order ids) => .ok (presentation.put orderKey (.order (ids ++ [id])))
  | _ => .error .unsupported

/-- Add the widget of a field. -/
def addField (settings : Settings) (presentation : Presentation) (field : Field) :
    Result Presentation := do
  let widget ← Widget.ofField field settings
  listField (presentation.put field.id (.widget widget)) field.id

/-- The presentation schema of a page. -/
def ofPage (page : Page) (settings : Settings) : Result Presentation :=
  (page.fields.filter Field.isAnswerable).foldlM (addField settings)
    [(orderKey, .order []), (submitKey, .submit settings.submitText)]

end Presentation

/-- An option with its label as a record. -/
def optionRecord (value label : Value) : Value :=
  .fields [("value", value), ("label", label)]

/-- The options of a choice as records; each option is its own label. -/
def optionRecords (options : List Value) : List Value :=
  options.map fun option => optionRecord option option

/-- What a widget is told, as a record. -/
def WidgetOptions.toValue : WidgetOptions → Value
  | .dropdown blank options =>
      .fields [("enumOptions", .list (optionRecord (.text "") blank :: optionRecords options))]
  | .choices options =>
      .fields [("inline", .bool false), ("enumOptions", .list (optionRecords options))]
  | .rows count => .fields [("rows", count)]
  | .files accept multiple => .fields [("accept", .text accept), ("multiple", multiple)]

/-- A widget as a record. -/
def Widget.toValue (widget : Widget) : Value :=
  .fields <|
    [("ui:widget", .text widget.name)] ++
    (match widget.placeholder with
      | some placeholder => [("ui:placeholder", placeholder)]
      | none => []) ++
    (if widget.readOnly then [("ui:readonly", .bool true)] else []) ++
    (match widget.options with
      | some options => [("ui:options", options.toValue)]
      | none => [])

/-- An entry of a presentation schema as a value. -/
def PresentationEntry.toValue : PresentationEntry → Value
  | .order ids => .texts ids
  | .submit label => .fields [("submitText", label), ("norender", .bool false)]
  | .widget w => w.toValue

/-- A presentation schema as a record. -/
def Presentation.toValue (presentation : Presentation) : Value :=
  .fields (presentation.map fun entry => (entry.1, entry.2.toValue))

end PagedForm
