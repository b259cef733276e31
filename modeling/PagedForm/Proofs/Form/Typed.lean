import PagedForm.Form.Basic
import PagedForm.Proofs.Field.Typed
import PagedForm.Proofs.Routing.Selection

/-!
# Forms whose attributes have their types

Like most attributes of a field, those of routings, pages and forms are not checked when they are
given. A form is typed when all of them are of the types they are meant to have.
-/

namespace PagedForm

/-- The attributes of a routing are texts; the default target may be absent. -/
structure Routing.IsTyped (routing : Routing) : Prop extends routing.IsTextual where
  fieldId : ∃ s, routing.fieldId = .text s

/-- The attributes of a page are texts, its fields are typed, and so is its routing. -/
structure Page.IsTyped (page : Page) : Prop where
  id : ∃ s, page.id = .text s
  name : ∃ s, page.name = .text s
  description : ∃ s, page.description = .text s
  fields : ∀ field ∈ page.fields, field.IsTyped
  actionName : ∃ s, page.actionName = .text s
  summaryCheck : ∃ s, page.summaryCheck = .text s
  routing : ∀ routing ∈ page.routing, routing.IsTyped

/-- The attributes of a form are texts, of which three may be absent, and its pages are typed. -/
structure Form.IsTyped (form : Form) : Prop where
  name : ∃ s, form.name = .text s
  description : ∃ s, form.description = .text s
  pages : ∀ page ∈ form.pages, page.IsTyped
  id : AttributeType.optionalText.Admits form.id
  createdAt : AttributeType.optionalText.Admits form.createdAt
  updatedAt : AttributeType.optionalText.Admits form.updatedAt

/-- All fields of a form can be defined. -/
def Form.IsDefined (form : Form) : Prop :=
  ∀ page ∈ form.pages, ∀ field ∈ page.fields, field.IsDefined

/-- The fields of a typed form can be defined. -/
theorem Form.IsTyped.isDefined {form : Form} (h : form.IsTyped) : form.IsDefined :=
  fun page hpage field hfield => ((h.pages page hpage).fields field hfield).defined

end PagedForm
