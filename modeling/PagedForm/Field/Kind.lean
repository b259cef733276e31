import PagedForm.Value.Basic

/-!
# Field kinds

The closed set of kinds a field can have, with the name that documents use for each.
`ofName?_eq_some_iff` says that names and kinds determine each other.
-/

namespace PagedForm

/-- The kinds of fields. -/
inductive FieldKind where
  | title
  | text
  | textarea
  | select
  | radio
  | checkbox
  | file
  | readonly
  deriving DecidableEq, Repr

namespace FieldKind

/-- All kinds. -/
def all : List FieldKind :=
  [.title, .text, .textarea, .select, .radio, .checkbox, .file, .readonly]

/-- The name of a kind in documents. -/
def name : FieldKind → String
  | .title => "title"
  | .text => "text"
  | .textarea => "textarea"
  | .select => "select"
  | .radio => "radio"
  | .checkbox => "checkbox"
  | .file => "file"
  | .readonly => "readonly"

/-- The kind with a name. -/
def ofName? (s : String) : Option FieldKind :=
  all.find? fun kind => kind.name = s

/-- The kind that a value names. -/
def ofValue? : Value → Option FieldKind
  | .text s => ofName? s
  | _ => none

/-- The kind has a fixed list of options. -/
def isChoice : FieldKind → Bool
  | .select | .radio | .checkbox => true
  | _ => false

/-- The kind collects an answer. -/
def isInput : FieldKind → Bool
  | .title | .readonly => false
  | _ => true

/-- The kind takes one line or a paragraph of free text. -/
def isFreeText : FieldKind → Bool
  | .text | .textarea => true
  | _ => false

/-- Every kind is listed. -/
theorem mem_all (kind : FieldKind) : kind ∈ all := by
  cases kind <;> decide

/-- A kind is found by its name. -/
@[simp] theorem ofName?_name (kind : FieldKind) : ofName? kind.name = some kind := by
  cases kind <;> rfl

/-- A name finds a kind exactly when it is the kind's name. -/
theorem ofName?_eq_some_iff {s : String} {kind : FieldKind} :
    ofName? s = some kind ↔ kind.name = s := by
  constructor
  · intro h
    simpa using List.find?_some h
  · rintro rfl
    exact ofName?_name kind

end FieldKind

end PagedForm
