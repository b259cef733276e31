import PagedForm.Field.Define

/-!
# New fields

A new field gets an id made from its title: the letters and digits of the title's words, the
first word in lower case and the others capitalised. When the id is taken, the first free number
from two on is added. `kind_convert` says that a converted field has the kind that was asked for.
-/

namespace PagedForm

namespace FieldId

/-- A word in lower case but for its first letter. -/
def capitalise : List Char → List Char
  | [] => []
  | c :: rest => c.toUpper :: rest.map Char.toLower

/-- The letters, digits and blanks of a title, in ASCII but for the blanks. -/
def keptChars (title : String) : List Char :=
  title.toList.filter fun c => c.isAlphanum || Text.isBlank c

/-- The words of a title joined into one, capitals marking where a word begins. -/
def camelCase (title : String) : String :=
  match Text.words (keptChars title) with
  | [] => ""
  | first :: rest => String.ofList (first.map Char.toLower ++ rest.flatMap capitalise)

/-- What the id of a field of a kind ends in when its title gives no id. -/
def kindSuffix : FieldKind → String
  | .radio => "Choice"
  | .select => "Selection"
  | .checkbox => "Options"
  | .file => "Files"
  | .text => "Input"
  | .textarea => "Text"
  | .title | .readonly => ""

/-- The id that a title and a kind suggest. -/
def base (title : String) (kind : FieldKind) : String :=
  let suggested := camelCase title
  if suggested.isEmpty then kind.name ++ "Field" ++ kindSuffix kind else suggested

/-- An id with a number added. -/
def numbered (start : String) (number : Nat) : String :=
  start ++ toString number

/-- The first of an id and its numbered forms that is not taken. One of the first `taken.length + 1`
numbered forms is always free. -/
def free (start : String) (taken : List String) : String :=
  if taken.contains start then
    let numbers := (List.range (taken.length + 1)).map (· + 2)
    match numbers.find? fun number => !taken.contains (numbered start number) with
    | some number => numbered start number
    | none => start
  else start

/-- A free id for a field with this title. -/
def fresh (title : String) (kind : FieldKind) (taken : List String) : String :=
  free (base title kind) taken

end FieldId

namespace FieldKind

/-- The title of a new field. -/
def newTitle : FieldKind → String
  | .title => "Section Title"
  | .text => "Text Input"
  | .textarea => "Long Text"
  | .select => "Select from List"
  | .radio => "Choose Option"
  | .checkbox => "Select Multiple"
  | .file => "Upload Files"
  | .readonly => "Read-only Text"

/-- The kind that a value names, which must be one. -/
def ofValue (value : Value) : Result FieldKind :=
  match ofValue? value with
  | some kind => .ok kind
  | none => .error (.value (.unknownKind value))

end FieldKind

namespace Field

/-- The options of a choice until its author gives some. -/
def placeholderOptions : List Value :=
  [.text "Option 1", .text "Option 2", .text "Option 3"]

/-- The types that a new file field accepts. -/
def imageTypes : List Value :=
  [.text "image/*"]

/-- A field of a kind with nothing but an id, a title and the entry of the kind. -/
def plain (kind : FieldKind) (id : String) (title : Value) (entry : Entry) : Field where
  id := id
  title := title
  dependsOn := .null
  showWhen := .null
  body := match kind with
    | .title => .title
    | .readonly => .readonly .absent
    | _ => .input ⟨.bool false, .bool false, .absent, entry⟩

/-- The entry of a new input. -/
def newEntry (placeholder : Value) (options : List Value) : FieldKind → Entry
  | .textarea => .textarea placeholder
  | .select => .select options
  | .radio => .radio options
  | .checkbox => .checkbox options
  | .file => .file ⟨imageTypes, .int 10, .bool false, .text "none"⟩
  | .title | .readonly | .text => .text placeholder

/-- A new field of a kind, with an id that is not taken. -/
def new (kind : FieldKind) (taken : List String) : Field :=
  plain kind (FieldId.fresh kind.newTitle kind taken) (.text kind.newTitle)
    (newEntry (.text "Enter value") placeholderOptions kind)

/-- The options that a field brings to a new kind: its own if it has some. -/
def carriedOptions (field : Field) : List Value :=
  match field.options? with
  | some (first :: rest) => first :: rest
  | _ => placeholderOptions

/-- What an input keeps when its kind changes: whether it is required and can be changed. -/
def carriedFlags (field : Field) : Value × Value :=
  match field.body with
  | .input i => (i.required, i.readOnly)
  | _ => (.bool false, .bool false)

/-- The field as one of another kind. What both kinds have is carried over, and the default is
dropped. -/
def convert (field : Field) (kind : FieldKind) : Field :=
  if kind = field.kind then field
  else
    { field with
      body := match kind with
        | .title => .title
        | .readonly => .readonly .absent
        | _ =>
            let (required, readOnly) := field.carriedFlags
            .input ⟨required, readOnly, .absent,
              newEntry (field.placeholder?.getD .null) field.carriedOptions kind⟩ }

/-- A converted field has the kind asked for. -/
theorem kind_convert (field : Field) (kind : FieldKind) : (field.convert kind).kind = kind := by
  unfold convert
  split
  · next h => exact h.symm
  · cases kind <;> rfl

/-- Only the body of a converted field is another. -/
theorem exists_convert_eq (field : Field) (kind : FieldKind) :
    ∃ body, field.convert kind = { field with body := body } := by
  unfold convert
  split
  · exact ⟨field.body, rfl⟩
  · exact ⟨_, rfl⟩

end Field

end PagedForm
