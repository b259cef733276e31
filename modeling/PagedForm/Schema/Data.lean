import PagedForm.Binary64.Decimal
import PagedForm.Form.Basic
import PagedForm.Settings.Basic

/-!
# Data schemas

The data schema of a page describes its answers: one property for each field that takes an answer,
under the field's id and in the order of the fields, and the list of the ids that are required.
-/

namespace PagedForm

/-- A size limit as a text: at most six significant digits of the number of megabytes. -/
def sizeText (size : Value) : Result String :=
  let number : Result Binary64 := match size with
    | .bool b => .ok (.ofRatio false (if b then 1 else 0) 1)
    | .int n =>
        match Binary64.ofInt? n with
        | some x => .ok x
        | none => .error (.value .overflow)
    | .float x => .ok x
    | .text _ => .error (.value .notNumber)
    | _ => .error .mistyped
  number.map fun x => x.general ++ "MB"

/-- The size limit of a file field: its own, or that of the settings. -/
def UploadSpec.limit (spec : UploadSpec) (settings : Settings) : Value :=
  spec.maxSize.orElse settings.defaultMaxSize

/-- What a property says about the answers beyond its title. -/
inductive PropertyShape where
  | plain
  | oneOf (options : List Value)
  | manyOf (options : List Value)
  | file (description : String)
  deriving Repr

/-- The description of the answers to one field. -/
structure Property where
  title : Value
  shape : PropertyShape
  initial : Option Value
  readOnly : Bool
  deriving Repr

/-- The description of the answers to a page. -/
structure DataSchema where
  description : Value
  properties : Table Property
  required : List String
  deriving Repr

/-- What the property of a field says beyond its title. -/
def PropertyShape.ofField (field : Field) (settings : Settings) : Result PropertyShape :=
  match field.body with
  | .input ⟨_, _, _, .checkbox options⟩ => .ok (.manyOf options)
  | .input ⟨_, _, _, .radio options⟩ => .ok (.oneOf options)
  | .input ⟨_, _, _, .select options⟩ => .ok (.oneOf options)
  | .input ⟨_, _, _, .file spec⟩ =>
      (sizeText (spec.limit settings)).map fun size => .file ("Max size: " ++ size)
  | _ => .ok .plain

/-- The property of a field. A read-only text is shown but holds no default for the answers. -/
def Property.ofField (field : Field) (settings : Settings) : Result Property :=
  (PropertyShape.ofField field settings).map fun shape =>
    { title := field.title
      shape := shape
      initial :=
        if field.initial.isGiven && field.kind != .readonly then some field.initialAnswer
        else none
      readOnly := field.readOnly.truthy }

namespace DataSchema

/-- The data schema of a page. -/
def ofPage (page : Page) (settings : Settings) : Result DataSchema := do
  let answerable := page.fields.filter Field.isAnswerable
  let properties ← answerable.mapM fun field =>
    (Property.ofField field settings).map fun property => (field.id, property)
  pure
    { description := page.description
      properties := Table.ofEntries properties
      required := (answerable.filter fun field => field.required.truthy).map Field.id }

end DataSchema

/-- The entries that the shape of a property adds, after its type. -/
def PropertyShape.entries : PropertyShape → List (String × Value)
  | .plain => []
  | .oneOf options => [("enum", .list options)]
  | .manyOf options =>
      [("items", .fields [("type", .text "string"), ("enum", .list options)]),
       ("uniqueItems", .bool true)]
  | .file description => [("format", .text "data-url"), ("description", .text description)]

/-- The type of the answers that a property describes. -/
def PropertyShape.typeName : PropertyShape → String
  | .manyOf _ => "array"
  | _ => "string"

/-- A property as a record. -/
def Property.toValue (property : Property) : Value :=
  .fields <|
    [("title", property.title), ("type", .text property.shape.typeName)] ++
    property.shape.entries ++
    (match property.initial with
      | some value => [("default", value)]
      | none => []) ++
    (if property.readOnly then [("readOnly", .bool true)] else [])

/-- A data schema as a record. -/
def DataSchema.toValue (schema : DataSchema) : Value :=
  .fields
    [("type", .text "object"), ("description", schema.description),
     ("properties", .fields (schema.properties.map fun entry => (entry.1, entry.2.toValue))),
     ("required", .texts schema.required)]

end PagedForm
