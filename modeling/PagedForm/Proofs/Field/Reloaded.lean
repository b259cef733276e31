import PagedForm.Field.Document
import PagedForm.Proofs.Field.Typed

/-!
# Fields that are saved and read again

Saving writes a described file as a record and leaves an empty dependency out, and reading gives
every flag a truth value and an empty capture mode its usual value. `Field.reloaded` is what
becomes of a field, and `Field.ofDocument_toDocument` says that reading what was saved of it gives
just that.
-/

namespace PagedForm

/-- A file after it was saved and read: a described file has become a record. -/
def FileItem.reloaded : FileItem → FileItem
  | .described info =>
      .record [(.text "name", info.name), (.text "size", info.size), (.text "type", info.type),
        (.text "url", info.url)]
  | .record entries => .record entries

/-- A default after it was saved and read. -/
def Default.reloaded : Default → Default
  | .file item => .file item.reloaded
  | .files items => .files (items.map FileItem.reloaded)
  | other => other

/-- What a file input accepts after it was saved and read. -/
def UploadSpec.reloaded (spec : UploadSpec) : UploadSpec :=
  { spec with
    multiple := .bool spec.multiple.truthy
    captureMode := spec.captureMode.orElse (.text "none") }

/-- An entry after it was saved and read. -/
def Entry.reloaded : Entry → Entry
  | .file spec => .file spec.reloaded
  | other => other

/-- The body of a field after it was saved and read. -/
def Body.reloaded : Body → Body
  | .title => .title
  | .readonly initial => .readonly initial.reloaded
  | .input i =>
      .input ⟨.bool i.required.truthy, .bool i.readOnly.truthy, i.initial.reloaded,
        i.entry.reloaded⟩

/-- A field after it was saved and read. -/
def Field.reloaded (field : Field) : Field :=
  { field with
    dependsOn := field.dependsOn.orNull
    body := field.body.reloaded }

/-! ## Values and records -/

namespace Value

variable {name : String} {value : Value}

/-- Texts are alike when they are the same. -/
theorem text_alike_text (s t : String) : (Atom.text s).alike (.text t) = (s == t) := rfl

/-- What a record of fields has under a name is what its table has there. -/
theorem find?_fields (entries : Table Value) :
    find? (.text name) (entries.map fun entry => (.text entry.1, entry.2)) =
      Table.find? name entries := by
  induction entries with
  | nil => rfl
  | cons entry rest ih =>
      obtain ⟨key, other⟩ := entry
      simp only [List.map_cons, find?, Table.find?, text_alike_text, beq_iff_eq, ih]

/-- A record can be looked through. -/
@[simp] theorem look_fields (entries : Table Value) :
    (fields entries).look name = .ok (Table.find? name entries) :=
  congrArg Except.ok (find?_fields entries)

/-- What a record of fields has under a name is there when it is required. -/
theorem require_fields {entries : Table Value} (h : Table.find? name entries = some value) :
    (fields entries).require name = .ok value := by
  unfold require fields
  dsimp only
  rw [find?_fields, h]

/-- A value that is saved when it is not absent is read as it was. -/
@[simp] theorem getD_saved (value : Value) :
    (if value.isNull = false then some value else none).getD .null = value := by
  split
  · rfl
  · next hnull =>
      unfold isNull at hnull
      split at hnull
      · rfl
      · exact absurd rfl hnull

/-- A value that is saved when it counts as true is read as itself, or as nothing. -/
@[simp] theorem orNull_saved (value : Value) :
    ((if value.truthy = true then some value else none).getD .null).orNull = value.orNull := by
  split
  · rfl
  · next hfalse => simp [orNull, orElse, hfalse]

/-- What replaces a value that does not count as true does not either. -/
@[simp] theorem truthy_orNull (value : Value) : value.orNull.truthy = value.truthy := by
  unfold orNull orElse
  split
  · rfl
  · next hfalse => simpa [truthy] using hfalse

/-- A second choice is not made twice. -/
theorem orElse_orElse (value other : Value) :
    (value.orElse other).orElse other = value.orElse other := by
  by_cases htruthy : value.truthy = true
  · simp [orElse, htruthy]
  · simp [orElse, htruthy]

/-- A list is read as it was, also when it is empty. -/
@[simp] theorem list_orElse_nil (items : List Value) :
    (list items).orElse (.list []) = .list items := by
  cases items <;> rfl

end Value

/-- A saved value that is written only when it is given is read as it was. -/
theorem Field.find?_entryIf (condition : Bool) (name key : String) (value : Value) :
    Table.find? key (entryIf condition name value) =
      if condition = true ∧ name = key then some value else none := by
  cases condition <;> simp [entryIf, Table.find?]

/-! ## What becomes of a default -/

namespace FileItem

/-- A file is read from what is saved of it. -/
@[simp] theorem toValue_reloaded (item : FileItem) : item.reloaded.toValue = item.toAnswer := by
  cases item <;> rfl

/-- As an answer a file stays what it is. -/
@[simp] theorem toAnswer_reloaded (item : FileItem) : item.reloaded.toAnswer = item.toAnswer := by
  cases item <;> rfl

end FileItem

namespace Default

/-- A default is read from what is saved of it. -/
@[simp] theorem toValue_reloaded (initial : Default) :
    initial.reloaded.toValue = initial.toAnswer := by
  cases initial <;> simp [reloaded, toValue, toAnswer]

/-- As an answer a default stays what it is. -/
@[simp] theorem toAnswer_reloaded (initial : Default) :
    initial.reloaded.toAnswer = initial.toAnswer := by
  cases initial <;> simp [reloaded, toAnswer]

/-- A default stays given or absent. -/
@[simp] theorem isGiven_reloaded (initial : Default) :
    initial.reloaded.isGiven = initial.isGiven := by
  cases initial <;> rfl

/-- A default that is saved when it is given is read from what is saved of it. -/
@[simp] theorem getD_saved (initial : Default) :
    (if initial.isGiven = true then some initial.toAnswer else none).getD .null =
      initial.toAnswer := by
  cases initial <;> rfl

end Default

namespace Field

variable {field : Field}

/-- The entry accepts what becomes of a default that it accepted. -/
theorem accepts_reloaded {entry : Entry} {initial : Default} (h : entry.Accepts initial) :
    entry.reloaded.Accepts initial.reloaded := by
  cases h with
  | absent => exact .absent _
  | reference _ href => exact .reference _ href
  | text s hcheckbox hfile =>
      cases entry with
      | file => exact absurd rfl hfile
      | text | textarea | select | radio | checkbox => exact .text s hcheckbox hfile
  | choices options items => exact .choices options items
  | file item hsingle => exact .file _ hsingle
  | files items hseveral => exact .files _ hseveral

/-- A field that can be defined becomes one. -/
theorem IsDefined.reloaded (h : field.IsDefined) : field.reloaded.IsDefined := by
  refine ⟨h.id, ?_⟩
  cases field using Field.bodyCases with
  | title => trivial
  | readonly =>
      rcases h.body with rfl | ⟨s, rfl⟩
      · exact .inl rfl
      · exact .inr ⟨s, rfl⟩
  | input => exact accepts_reloaded h.body

/-- A field keeps its kind. -/
@[simp] theorem kind_reloaded (field : Field) : field.reloaded.kind = field.kind := by
  cases field using Field.bodyCases with
  | title => rfl
  | readonly => rfl
  | input _ _ _ _ _ _ _ entry => cases entry <;> rfl

/-- What is saved of a field, as a table. -/
def savedEntries (field : Field) : Table Value :=
  [("id", .text field.id), ("type", .text field.kind.name), ("title", field.title)] ++
    field.bodyEntries ++ entryIf field.dependsOn.truthy "dependsOn" field.dependsOn ++
    entryIf (!field.showWhen.isNull) "showWhen" field.showWhen

/-- The attributes read from what is saved of a field are those that it has afterwards. -/
theorem savedAttributes_savedEntries (field : Field) :
    savedAttributes field.kind (.text field.id)
      (field.savedEntries.map fun entry => (.text entry.1, entry.2)) =
        field.reloaded.attributes := by
  simp only [savedAttributes, Value.find?_fields, savedEntries, Table.find?_append, find?_entryIf]
  cases field using Field.bodyCases with
  | title =>
      simp [Table.find?, bodyEntries, kind, Body.kind, FieldKind.isInput, FieldKind.isFreeText,
        FieldKind.isChoice, reloaded, attributes, ownAttributes, Body.reloaded]
  | readonly =>
      simp [Table.find?, bodyEntries, find?_entryIf, kind, Body.kind, FieldKind.isInput,
        FieldKind.isFreeText, FieldKind.isChoice, reloaded, attributes, ownAttributes,
        Body.reloaded]
  | input _ _ _ _ _ _ _ entry =>
      cases entry <;>
        simp [Table.find?, Table.find?_append, bodyEntries, find?_entryIf, kind, Body.kind,
          Entry.kind, FieldKind.isInput, FieldKind.isFreeText, FieldKind.isChoice, reloaded,
          attributes, ownAttributes, Body.reloaded, Entry.reloaded, UploadSpec.reloaded]

/-- A field that can be defined is read from what is saved of it as the field that it becomes. -/
theorem ofDocument_toDocument (h : field.IsDefined) :
    ofDocument field.toDocument = .ok field.reloaded := by
  have hkind : (Value.fields field.savedEntries).require "type" = .ok (.text field.kind.name) :=
    Value.require_fields rfl
  have hid : (Value.fields field.savedEntries).require "id" = .ok (.text field.id) :=
    Value.require_fields rfl
  have hnamed : FieldKind.ofValue? (.text field.kind.name) = some field.kind :=
    FieldKind.ofName?_name field.kind
  have hdefine : define field.kind field.reloaded.attributes = .ok field.reloaded := by
    rw [define_eq_ok, ← kind_reloaded]
    exact h.reloaded.build_attributes
  have hsaved : define field.kind (savedAttributes field.kind (.text field.id)
      ((Value.fields field.savedEntries).record?.getD [])) = .ok field.reloaded := by
    rw [← hdefine, ← savedAttributes_savedEntries]
    rfl
  show ofDocument (.fields field.savedEntries) = .ok field.reloaded
  refine Result.bind_eq_ok.2 ⟨_, hkind, ?_⟩
  rw [hnamed]
  exact Result.bind_eq_ok.2 ⟨_, hid, hsaved⟩

/-! ## What stays as it was -/

/-- A field keeps its id. -/
@[simp] theorem id_reloaded (field : Field) : field.reloaded.id = field.id := rfl

/-- A field keeps its title. -/
@[simp] theorem title_reloaded (field : Field) : field.reloaded.title = field.title := rfl

/-- A field is shown for the same answer. -/
@[simp] theorem showWhen_reloaded (field : Field) :
    field.reloaded.showWhen = field.showWhen := rfl

/-- A field that depends on another still does, and no other field begins to. -/
@[simp] theorem truthy_dependsOn_reloaded (field : Field) :
    field.reloaded.dependsOn.truthy = field.dependsOn.truthy :=
  Value.truthy_orNull field.dependsOn

/-- A field depends on the field that it depended on. -/
theorem dependsOn_reloaded (h : field.dependsOn.truthy = true) :
    field.reloaded.dependsOn = field.dependsOn :=
  Value.orElse_of_truthy h

/-- A field takes answers or not, as before. -/
@[simp] theorem isAnswerable_reloaded (field : Field) :
    field.reloaded.isAnswerable = field.isAnswerable := by
  simp [isAnswerable]

/-- A field takes several options or not, as before. -/
@[simp] theorem isCheckbox_reloaded (field : Field) :
    field.reloaded.isCheckbox = field.isCheckbox := by
  simp [isCheckbox]

/-- A required field stays required, and no other becomes it. -/
@[simp] theorem truthy_required_reloaded (field : Field) :
    field.reloaded.required.truthy = field.required.truthy := by
  cases field using Field.bodyCases <;> rfl

/-- A field that cannot be changed stays so, and no other becomes it. -/
@[simp] theorem truthy_readOnly_reloaded (field : Field) :
    field.reloaded.readOnly.truthy = field.readOnly.truthy := by
  cases field using Field.bodyCases <;> rfl

/-- The default of a field becomes the default of what the field becomes. -/
@[simp] theorem initial_reloaded (field : Field) :
    field.reloaded.initial = field.initial.reloaded := by
  cases field using Field.bodyCases <;> rfl

/-- A field keeps its options. -/
@[simp] theorem options?_reloaded (field : Field) : field.reloaded.options? = field.options? := by
  cases field using Field.bodyCases with
  | title => rfl
  | readonly => rfl
  | input _ _ _ _ _ _ _ entry => cases entry <;> rfl

/-- A field keeps its placeholder. -/
@[simp] theorem placeholder?_reloaded (field : Field) :
    field.reloaded.placeholder? = field.placeholder? := by
  cases field using Field.bodyCases with
  | title => rfl
  | readonly => rfl
  | input _ _ _ _ _ _ _ entry => cases entry <;> rfl

/-- What a file field accepts becomes what it accepts afterwards. -/
@[simp] theorem upload?_reloaded (field : Field) :
    field.reloaded.upload? = field.upload?.map UploadSpec.reloaded := by
  cases field using Field.bodyCases with
  | title => rfl
  | readonly => rfl
  | input _ _ _ _ _ _ _ entry => cases entry <;> rfl

/-- The empty answer of a field stays the same. -/
@[simp] theorem emptyAnswer_reloaded (field : Field) :
    field.reloaded.emptyAnswer = field.emptyAnswer := by
  cases field using Field.bodyCases with
  | title => rfl
  | readonly => rfl
  | input _ _ _ _ _ _ _ entry => cases entry <;> rfl

/-- A field starts with the same answer. -/
@[simp] theorem initialAnswer_reloaded (field : Field) :
    field.reloaded.initialAnswer = field.initialAnswer := by
  simp [initialAnswer]

end Field

end PagedForm
