import PagedForm.Proofs.Field.Shape
import PagedForm.Proofs.Form.Typed
import PagedForm.Proofs.Navigation.Previewing
import PagedForm.Upload

/-!
# Evaluating a page without a fault

For all answers it is known which fields of a page are visible and which answers it still needs, and
leaving it has an outcome. Its preview exists as well for answers in the shapes of the fields, with
one exception: an answer that is a list is shown by joining its items, and the files of a field
that takes several are no texts.
-/

namespace PagedForm

/-- An answer to a field is in the shape of its answers; one that is no list may also be nothing. -/
def Field.TakesAnswer (field : Field) (answer : Value) : Prop :=
  field.shape.Holds answer ∨ answer = .null ∧ (field.shape = .text ∨ field.shape = .file)

namespace Page

/-- Every answer that is there is one to its field. -/
def TakesAnswers (page : Page) (answers : Answers) : Prop :=
  ∀ field ∈ page.fields, ∀ answer, Table.find? field.id answers = some answer →
    field.TakesAnswer answer

/-- The routing reads a field that takes several files, and at least one has been given. -/
def ReadsFiles (page : Page) (answers : Answers) : Prop :=
  ∃ routing field file rest, page.routing = some routing ∧
    page.field? routing.fieldId = some field ∧ field.shape = .files ∧
    answers.get field.id = .list (file :: rest)

variable {page : Page} {answers : Answers}

/-- A list with files cannot be shown. -/
theorem previewAnswer_files {field : Field} {file : Value} {rest : List Value}
    (h : field.TakesAnswer (.list (file :: rest))) (hshape : field.shape = .files) :
    previewAnswer (.list (file :: rest)) = .error .mistyped := by
  rcases h with hholds | ⟨hnull, _⟩
  · rw [hshape] at hholds
    obtain ⟨items, heq, hrecords⟩ := hholds
    cases heq
    obtain ⟨entries, rfl⟩ := hrecords file List.mem_cons_self
    rw [previewAnswer, Value.joinTexts, List.mapM_cons]
    rfl
  · cases hnull

/-- The answer under the id of a field is one to the field, or nothing. -/
theorem TakesAnswers.get (h : page.TakesAnswers answers) {field : Field}
    (hfield : field ∈ page.fields) :
    field.TakesAnswer (answers.get field.id) ∨ answers.get field.id = .null := by
  unfold Answers.get
  cases hfind : Table.find? field.id answers with
  | none => exact .inr rfl
  | some answer => exact .inl (h field hfield answer hfind)

/-- When the page reads files, its preview fails. -/
theorem ReadsFiles.preview (hanswers : page.TakesAnswers answers) (h : page.ReadsFiles answers) :
    page.preview answers = .error .mistyped := by
  obtain ⟨routing, field, file, rest, hrouting, hfound, hshape, hfiles⟩ := h
  obtain ⟨hfield, hid⟩ := field?_eq_some hfound
  obtain ⟨target, _, hselect⟩ := Routing.select_mem_targets page.routing page.fields answers
  have hanswer : routedAnswer routing answers = .ok (.list (file :: rest)) := by
    rw [routedAnswer, hid]
    exact congrArg Except.ok hfiles
  have htakes : field.TakesAnswer (.list (file :: rest)) := by
    rcases hanswers.get hfield with htakes | hnull
    · exact hfiles ▸ htakes
    · rw [hfiles] at hnull
      cases hnull
  rw [preview_of_routing hrouting hanswer hselect, hfound, previewAnswer_files htakes hshape]
  rfl

end Page

end PagedForm
