import PagedForm.Field.Basic

/-!
# Answers

The answers to a page are a table from field ids to values. A field that has not been answered
starts with its default or with the empty answer of its kind. `isMissing` says which answers do
not count as given.
-/

namespace PagedForm

/-- Answers by field id. -/
abbrev Answers := Table Value

/-- The default of a field as an answer: files become records. -/
def FileItem.toAnswer : FileItem → Value
  | .described info => info.toValue
  | .record entries => .record entries

/-- A default as an answer. -/
def Default.toAnswer : Default → Value
  | .absent => .null
  | .text s => .text s
  | .choices items => .texts items
  | .file item => item.toAnswer
  | .files items => .list (items.map FileItem.toAnswer)

namespace Field

/-- The empty answer of a field's kind. -/
def emptyAnswer (field : Field) : Value :=
  match field.body with
  | .input ⟨_, _, _, .checkbox _⟩ => .list []
  | .input ⟨_, _, _, .file spec⟩ => if spec.multiple.truthy then .list [] else .null
  | _ => .text ""

/-- The answer that a field starts with. -/
def initialAnswer (field : Field) : Value :=
  if field.initial.isGiven then field.initial.toAnswer else field.emptyAnswer

end Field

/-- The answers that a page starts with: one for each field that takes one. -/
def Answers.initial (fields : List Field) : Answers :=
  Table.ofEntries <|
    (fields.filter Field.isAnswerable).map fun field => (field.id, field.initialAnswer)

/-- An answer does not count as given: nothing, the empty text, the empty list. -/
def isMissing : Value → Bool
  | .null => true
  | .text s => s.isEmpty
  | .list items => items.isEmpty
  | _ => false

/-- The answer to a field; an absent answer is nothing. -/
def Answers.get (answers : Answers) (id : String) : Value :=
  (Table.find? id answers).getD .null

/-- The empty answer of every kind is missing. -/
theorem isMissing_emptyAnswer (field : Field) : isMissing field.emptyAnswer = true := by
  simp only [Field.emptyAnswer]
  split
  · rfl
  · split <;> rfl
  · rfl

end PagedForm
