import PagedForm.Form.Basic
import PagedForm.Field.Define

/-!
# Equality of forms

Two forms are the same when all their attributes are alike as values. Since values are compared
loosely, the same form may have two spellings: a number written with and without a fraction is one
number.
-/

namespace PagedForm

/-- Two lists have the same length and are related item by item. -/
def allPairs {α : Type} (test : α → α → Bool) : List α → List α → Bool
  | [], [] => true
  | a :: as, b :: bs => test a b && allPairs test as bs
  | _, _ => false

/-- Two fields are of one kind and have like attributes. -/
def Field.same (a b : Field) : Bool :=
  a.kind == b.kind && (Value.fields a.attributes).same (.fields b.attributes)

/-- Two branches have like values and targets. -/
def Branch.same (a b : Branch) : Bool :=
  a.value.alike b.value && a.target.alike b.target

/-- Two routings have like attributes and branches. -/
def Routing.same (a b : Routing) : Bool :=
  a.fieldId.alike b.fieldId && allPairs Branch.same a.branches b.branches &&
    a.defaultTarget.alike b.defaultTarget

/-- Two pages have like attributes, fields and routings. -/
def Page.same (a b : Page) : Bool :=
  a.id.alike b.id && a.name.alike b.name && a.description.alike b.description &&
    allPairs Field.same a.fields b.fields && a.actionName.alike b.actionName &&
    a.summaryCheck.alike b.summaryCheck &&
    match a.routing, b.routing with
    | none, none => true
    | some r, some s => r.same s
    | _, _ => false

/-- Two forms have like attributes and pages. -/
def Form.same (a b : Form) : Bool :=
  a.name.alike b.name && a.description.alike b.description && allPairs Page.same a.pages b.pages &&
    a.id.alike b.id && a.createdAt.alike b.createdAt && a.updatedAt.alike b.updatedAt

end PagedForm
