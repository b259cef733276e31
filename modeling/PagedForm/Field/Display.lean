import PagedForm.Field.Answer
import PagedForm.Template

/-!
# Shown answers

What a field shows: the answer given to it, else its default with references resolved.
-/

namespace PagedForm.Field

/-- What a field shows for given answers in a context. -/
def display (field : Field) (answers : Answers) (context : Value) : Result Value :=
  match Table.find? field.id answers with
  | some answer => .ok answer
  | none => Template.resolve field.initial.toValue context

end PagedForm.Field
