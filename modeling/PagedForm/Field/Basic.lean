import PagedForm.Fault
import PagedForm.Table

/-!
# Fields

A field of a page. What all fields have in common is in `Field`, and what only some kinds have is
in its body: headings hold nothing, read-only texts hold a default, and inputs hold what the kind
of input needs. Only the id and the default are checked when a field is defined; the other
attributes are values of any shape.
-/

namespace PagedForm

/-- A file given as a default: a described upload, or a record kept as it was written. -/
inductive FileItem where
  | described (info : FileInfo)
  | record (entries : List (Atom × Value))
  deriving Repr

/-- The default answer of a field. -/
inductive Default where
  | absent
  | text (s : String)
  | choices (items : List String)
  | file (item : FileItem)
  | files (items : List FileItem)
  deriving Repr

/-- What a file input accepts. -/
structure UploadSpec where
  acceptedTypes : List Value
  maxSize : Value
  multiple : Value
  captureMode : Value
  deriving Repr

/-- How an answer is entered. -/
inductive Entry where
  | text (placeholder : Value)
  | textarea (placeholder : Value)
  | select (options : List Value)
  | radio (options : List Value)
  | checkbox (options : List Value)
  | file (spec : UploadSpec)
  deriving Repr

/-- What all inputs have. -/
structure Input where
  required : Value
  readOnly : Value
  initial : Default
  entry : Entry
  deriving Repr

/-- What only some kinds of fields have. -/
inductive Body where
  | title
  | readonly (initial : Default)
  | input (input : Input)
  deriving Repr

/-- A field. It is shown only while the field `dependsOn` has the answer `showWhen`, if both are
given. -/
structure Field where
  id : String
  title : Value
  dependsOn : Value
  showWhen : Value
  body : Body
  deriving Repr

/-- A field is a heading, a read-only text or an input with an entry. -/
@[elab_as_elim]
theorem Field.bodyCases {motive : Field → Prop}
    (title : ∀ id title dependsOn showWhen,
      motive ⟨id, title, dependsOn, showWhen, .title⟩)
    (readonly : ∀ id title dependsOn showWhen initial,
      motive ⟨id, title, dependsOn, showWhen, .readonly initial⟩)
    (input : ∀ id title dependsOn showWhen required readOnly initial entry,
      motive ⟨id, title, dependsOn, showWhen, .input ⟨required, readOnly, initial, entry⟩⟩)
    (field : Field) : motive field := by
  obtain ⟨id, text, dependsOn, showWhen, body⟩ := field
  cases body with
  | title => exact title id text dependsOn showWhen
  | readonly initial => exact readonly id text dependsOn showWhen initial
  | input i => exact input id text dependsOn showWhen i.required i.readOnly i.initial i.entry

/-- The kind of an input. -/
def Entry.kind : Entry → FieldKind
  | .text _ => .text
  | .textarea _ => .textarea
  | .select _ => .select
  | .radio _ => .radio
  | .checkbox _ => .checkbox
  | .file _ => .file

/-- The kind of a field. -/
def Body.kind : Body → FieldKind
  | .title => .title
  | .readonly _ => .readonly
  | .input i => i.entry.kind

/-- The value of a file given as a default. -/
def FileItem.toValue : FileItem → Value
  | .described info => info.described
  | .record entries => .record entries

/-- The value of a default; nothing when it is absent. -/
def Default.toValue : Default → Value
  | .absent => .null
  | .text s => .text s
  | .choices items => .texts items
  | .file item => item.toValue
  | .files items => .list (items.map FileItem.toValue)

/-- A default is given. -/
def Default.isGiven : Default → Bool
  | .absent => false
  | _ => true

namespace Field

/-- The kind of a field. -/
def kind (field : Field) : FieldKind :=
  field.body.kind

/-- The input of a field that has one. -/
def input? (field : Field) : Option Input :=
  match field.body with
  | .input i => some i
  | _ => none

/-- The options of a field with a fixed list of them. -/
def options? (field : Field) : Option (List Value) :=
  match field.body with
  | .input ⟨_, _, _, .select options⟩ => some options
  | .input ⟨_, _, _, .radio options⟩ => some options
  | .input ⟨_, _, _, .checkbox options⟩ => some options
  | _ => none

/-- The placeholder of a field for free text. -/
def placeholder? (field : Field) : Option Value :=
  match field.body with
  | .input ⟨_, _, _, .text placeholder⟩ => some placeholder
  | .input ⟨_, _, _, .textarea placeholder⟩ => some placeholder
  | _ => none

/-- What a file field accepts. -/
def upload? (field : Field) : Option UploadSpec :=
  match field.body with
  | .input ⟨_, _, _, .file spec⟩ => some spec
  | _ => none

/-- The default of a field. -/
def initial (field : Field) : Default :=
  match field.body with
  | .title => .absent
  | .readonly initial => initial
  | .input i => i.initial

/-- The field takes several options at once. -/
def isCheckbox (field : Field) : Bool :=
  field.kind == .checkbox

/-- The field must be answered. The attribute is given as it was written. -/
def required (field : Field) : Value :=
  match field.body with
  | .input i => i.required
  | _ => .bool false

/-- The field is shown but cannot be changed. The attribute is given as it was written. -/
def readOnly (field : Field) : Value :=
  match field.body with
  | .title => .bool false
  | .readonly _ => .bool true
  | .input i => i.readOnly

/-- The field has an entry in the answers: every field but a heading. -/
def isAnswerable (field : Field) : Bool :=
  field.kind != .title

/-- Only inputs have an input part. -/
theorem input?_isSome (field : Field) : field.input?.isSome = field.kind.isInput := by
  cases field using Field.bodyCases with
  | title => rfl
  | readonly => rfl
  | input _ _ _ _ _ _ _ entry => cases entry <;> rfl

/-- Only choice fields have options. -/
theorem options?_isSome (field : Field) : field.options?.isSome = field.kind.isChoice := by
  cases field using Field.bodyCases with
  | title => rfl
  | readonly => rfl
  | input _ _ _ _ _ _ _ entry => cases entry <;> rfl

/-- Only inputs with a file as their entry accept files. -/
theorem upload?_eq_some {field : Field} {spec : UploadSpec} :
    field.upload? = some spec ↔ ∃ required readOnly initial,
      field.body = .input ⟨required, readOnly, initial, .file spec⟩ := by
  constructor
  · intro h
    unfold upload? at h
    split at h
    · next hbody =>
        cases h
        exact ⟨_, _, _, hbody⟩
    · cases h
  · rintro ⟨_, _, _, hbody⟩
    unfold upload?
    rw [hbody]

end Field

end PagedForm
