import PagedForm.Field.Basic
import PagedForm.Template

/-!
# Defining fields

A field is defined from a kind and a table of attributes. Attributes that the kind does not have
are refused, the id must be a text that is not empty, and the default must have the shape of the
kind's answers or be a reference. `build` checks in this order: the names of the attributes, the
lists among them, the id, and last the default.
-/

namespace PagedForm

namespace Default

/-- The default of a field that holds text. -/
def ofText (id : String) : Value → Except FieldFault Default
  | .null => .ok .absent
  | .text s => .ok (.text s)
  | other => .error (.textDefault id other)

/-- The default of a field that holds several options. -/
def ofChoices (id : String) (value : Value) : Except FieldFault Default :=
  match value with
  | .null => .ok .absent
  | .text s => if Template.isReference s then .ok (.text s) else .error (.choicesDefault id)
  | .list items =>
      match items.mapM Value.text? with
      | some texts => .ok (.choices texts)
      | none => .error (.choicesDefault id)
  | _ => .error (.choicesDefault id)

/-- The file that a value describes. -/
def fileItem? : Value → Option FileItem
  | .record entries => some (.record entries)
  | .file name size type url => some (.described ⟨name, size, type, url⟩)
  | _ => none

/-- The default of a field that holds one file. -/
def ofFile (id : String) (value : Value) : Except FieldFault Default :=
  match value with
  | .null => .ok .absent
  | .text s => if Template.isReference s then .ok (.text s) else .error (.fileDefault id)
  | other =>
      match fileItem? other with
      | some item => .ok (.file item)
      | none => .error (.fileDefault id)

/-- The default of a field that holds several files. -/
def ofFiles (id : String) (value : Value) : Except FieldFault Default :=
  match value with
  | .null => .ok .absent
  | .text s => if Template.isReference s then .ok (.text s) else .error (.filesDefault id)
  | .list items =>
      match items.mapM fileItem? with
      | some found => .ok (.files found)
      | none => .error (.filesDefault id)
  | _ => .error (.filesDefault id)

/-- The default of an input with this entry. -/
def ofEntry (entry : Entry) (id : String) (value : Value) : Except FieldFault Default :=
  match entry with
  | .checkbox _ => ofChoices id value
  | .file spec => if spec.multiple.truthy then ofFiles id value else ofFile id value
  | _ => ofText id value

end Default

namespace FieldKind

/-- The attributes that every field has. -/
def sharedAttributes : List String :=
  ["id", "title", "depends_on", "show_when"]

/-- The attributes that only some kinds have. -/
def ownAttributes : FieldKind → List String
  | .title => []
  | .readonly => ["default_value"]
  | .text | .textarea => ["required", "read_only", "default_value", "placeholder"]
  | .select | .radio | .checkbox => ["required", "read_only", "default_value", "options"]
  | .file =>
      ["required", "read_only", "default_value", "accepted_file_types", "max_file_size",
       "multiple", "capture_mode"]

/-- The attributes that a field of a kind has. -/
def attributes (kind : FieldKind) : List String :=
  sharedAttributes ++ kind.ownAttributes

end FieldKind

namespace Field

/-- The attribute of a table, or its usual value. -/
def valueOf (attrs : Table Value) (name : String) (usual : Value) : Value :=
  (attrs.find? name).getD usual

/-- The id among the attributes. -/
def checkId (attrs : Table Value) : Except FieldFault String :=
  match attrs.find? "id" with
  | some (.text s) => if s.isEmpty then .error .badId else .ok s
  | _ => .error .badId

/-- Lift a field fault. -/
def orFault {α : Type} : Except FieldFault α → Result α
  | .ok a => .ok a
  | .error e => .error (.field e)

/-- The entry of an input of a kind, from its attributes; its lists are run through. -/
def entryOf (kind : FieldKind) (attrs : Table Value) : Result (Option Entry) :=
  let placeholder := valueOf attrs "placeholder" .null
  let options := (valueOf attrs "options" (.list [])).elements
  match kind with
  | .title | .readonly => .ok none
  | .text => .ok (some (.text placeholder))
  | .textarea => .ok (some (.textarea placeholder))
  | .select => options.map fun items => some (.select items)
  | .radio => options.map fun items => some (.radio items)
  | .checkbox => options.map fun items => some (.checkbox items)
  | .file =>
      (valueOf attrs "accepted_file_types" (.list [])).elements.map fun items =>
        some <| .file
          { acceptedTypes := items
            maxSize := valueOf attrs "max_file_size" .null
            multiple := valueOf attrs "multiple" (.bool false)
            captureMode := valueOf attrs "capture_mode" (.text "none") }

/-- The body of a field whose entry has been read; its default is checked. -/
def bodyOf (kind : FieldKind) (entry : Option Entry) (id : String) (attrs : Table Value) :
    Except FieldFault Body :=
  let initial := valueOf attrs "default_value" .null
  match entry with
  | some e =>
      (Default.ofEntry e id initial).map fun start =>
        .input
          { required := valueOf attrs "required" (.bool false)
            readOnly := valueOf attrs "read_only" (.bool false)
            initial := start
            entry := e }
  | none =>
      if kind = .readonly then (Default.ofText id initial).map .readonly else .ok .title

/-- The field of a kind with these attributes. A missing id, an attribute that the kind does not
have and a list that cannot be run through are faults of type. -/
def build (kind : FieldKind) (attrs : Table Value) : Result Field := do
  if attrs.keys.any (fun name => !kind.attributes.contains name) then throw .mistyped
  if !attrs.has "id" then throw .mistyped
  let entry ← entryOf kind attrs
  let id ← orFault (checkId attrs)
  let body ← orFault (bodyOf kind entry id attrs)
  pure
    { id := id
      title := valueOf attrs "title" (.text "")
      dependsOn := valueOf attrs "depends_on" .null
      showWhen := valueOf attrs "show_when" .null
      body := body }

/-- The field of a kind with these attributes; a fault of type is reported as a field fault. -/
def define (kind : FieldKind) (attrs : Table Value) : Result Field :=
  match build kind attrs with
  | .error (.value .mistyped) => .error (.field (.badAttributes kind))
  | result => result

/-- The field of a named kind with these attributes, among which the kind itself must not be. -/
def defineNamed (kind : Value) (attrs : Table Value) : Result Field :=
  if attrs.has "kind" then .error .mistyped
  else
    match FieldKind.ofValue? kind with
    | some k => define k attrs
    | none => .error (.field (.unknownKind kind))

/-- The attributes of a field that are not shared by all fields. -/
def ownAttributes (field : Field) : Table Value :=
  match field.body with
  | .title => []
  | .readonly initial => [("default_value", initial.toValue)]
  | .input i =>
      [("required", i.required), ("read_only", i.readOnly),
       ("default_value", i.initial.toValue)] ++
        match i.entry with
        | .text placeholder => [("placeholder", placeholder)]
        | .textarea placeholder => [("placeholder", placeholder)]
        | .select options => [("options", .list options)]
        | .radio options => [("options", .list options)]
        | .checkbox options => [("options", .list options)]
        | .file spec =>
            [("accepted_file_types", .list spec.acceptedTypes),
             ("max_file_size", spec.maxSize), ("multiple", spec.multiple),
             ("capture_mode", spec.captureMode)]

/-- All attributes of a field. -/
def attributes (field : Field) : Table Value :=
  [("id", .text field.id), ("title", field.title), ("depends_on", field.dependsOn),
   ("show_when", field.showWhen)] ++ field.ownAttributes

/-- The field with some attributes changed, checked like a new field. -/
def revise (field : Field) (changes : Table Value) : Result Field :=
  build field.kind (field.attributes.merge changes)

/-- A field has the attributes of its kind. -/
theorem keys_attributes (field : Field) : field.attributes.keys = field.kind.attributes := by
  cases field using Field.bodyCases with
  | title => rfl
  | readonly => rfl
  | input _ _ _ _ _ _ _ entry => cases entry <;> rfl

end Field

end PagedForm
