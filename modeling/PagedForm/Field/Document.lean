import PagedForm.Field.Answer
import PagedForm.Field.Define

/-!
# Saved fields

A saved field is a record. Only what the kind has is written, and what it does not have is
ignored when a field is read. Absent defaults, placeholders and limits are left out.
-/

namespace PagedForm.Field

/-- An entry that is written only on a condition. -/
def entryIf (condition : Bool) (name : String) (value : Value) : List (String × Value) :=
  if condition then [(name, value)] else []

/-- The entries of a saved field that depend on its kind. -/
def bodyEntries (field : Field) : List (String × Value) :=
  match field.body with
  | .title => []
  | .readonly initial => entryIf initial.isGiven "defaultValue" initial.toAnswer
  | .input i =>
      [("required", i.required), ("readOnly", i.readOnly)] ++
      entryIf i.initial.isGiven "defaultValue" i.initial.toAnswer ++
        match i.entry with
        | .text placeholder => entryIf (!placeholder.isNull) "placeholder" placeholder
        | .textarea placeholder => entryIf (!placeholder.isNull) "placeholder" placeholder
        | .select options => [("options", .list options)]
        | .radio options => [("options", .list options)]
        | .checkbox options => [("options", .list options)]
        | .file spec =>
            [("acceptedFileTypes", .list spec.acceptedTypes)] ++
            entryIf (!spec.maxSize.isNull) "maxFileSize" spec.maxSize ++
            [("multiple", spec.multiple), ("captureMode", spec.captureMode)]

/-- The saved form of a field. -/
def toDocument (field : Field) : Value :=
  .fields <|
    [("id", .text field.id), ("type", .text field.kind.name), ("title", field.title)] ++
    field.bodyEntries ++
    entryIf field.dependsOn.truthy "dependsOn" field.dependsOn ++
    entryIf (!field.showWhen.isNull) "showWhen" field.showWhen

/-- The attributes that a saved field gives to a field of a kind. -/
def savedAttributes (kind : FieldKind) (id : Value) (entries : List (Atom × Value)) :
    Table Value :=
  let entry (name : String) (usual : Value) : Value :=
    (Value.find? (.text name) entries).getD usual
  let flag (name : String) : Value := .bool (entry name (.bool false)).truthy
  [("id", id), ("title", entry "title" (.text "")),
   ("depends_on", (entry "dependsOn" .null).orNull), ("show_when", entry "showWhen" .null)] ++
  (if kind.isInput then [("required", flag "required"), ("read_only", flag "readOnly")]
   else []) ++
  (if kind = .title then [] else [("default_value", entry "defaultValue" .null)]) ++
  (if kind.isFreeText then [("placeholder", entry "placeholder" .null)] else []) ++
  (if kind.isChoice then [("options", (entry "options" .null).orElse (.list []))] else []) ++
  (if kind = .file then
    [("accepted_file_types", (entry "acceptedFileTypes" .null).orElse (.list [])),
     ("max_file_size", entry "maxFileSize" .null),
     ("multiple", flag "multiple"),
     ("capture_mode", (entry "captureMode" .null).orElse (.text "none"))]
   else [])

/-- The field that a saved one describes. -/
def ofDocument (document : Value) : Result Field := do
  let named ← document.require "type"
  match FieldKind.ofValue? named with
  | none => throw (.value (.unknownKind named))
  | some kind => do
      let id ← document.require "id"
      define kind (savedAttributes kind id (document.record?.getD []))

/-- The attributes read from a saved field are those of its kind. -/
theorem keys_savedAttributes (kind : FieldKind) (id : Value) (entries : List (Atom × Value)) :
    ∀ name ∈ (savedAttributes kind id entries).keys, name ∈ kind.attributes := by
  cases kind <;>
    simp [savedAttributes, Table.keys, FieldKind.isInput, FieldKind.isFreeText,
      FieldKind.isChoice, FieldKind.attributes, FieldKind.sharedAttributes,
      FieldKind.ownAttributes]

end PagedForm.Field
