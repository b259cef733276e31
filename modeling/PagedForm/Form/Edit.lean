import PagedForm.Field.Fresh
import PagedForm.Form.Document

/-!
# Editing forms

Every edit takes a form and gives a new one or a fault; a form is never changed in part. Edits keep
the ids within a page apart, keep dependencies and routings pointing at a renamed field, and drop
those that pointed at a removed one. `Edit` collects them in one type, so that sequences of edits
can be run and reasoned about.
-/

namespace PagedForm

namespace Page

/-- A page as it is added to a form. -/
def numbered (number : Nat) : Page where
  id := .text ("step" ++ toString number)
  name := .text ("Page " ++ toString number)
  description := .text
    (if number = 1 then "First page description"
     else "Page " ++ toString number ++ " description")
  fields := []
  actionName := .text ("submitPage" ++ toString number)
  summaryCheck := .text "true"
  routing := none

/-- The place of the first field with an id. -/
def fieldIndex? (page : Page) (id : String) : Option Nat :=
  page.fields.findIdx? fun field => field.id = id

/-- The place of the first field with an id, which must be there. -/
def fieldIndex (page : Page) (id : String) : Result Nat :=
  match page.fieldIndex? id with
  | some index => .ok index
  | none => .error (.edit (.noField (.text id) page.name))

/-- The id that a value is; a value that is no text is the id of no field. -/
def idOf (page : Page) (id : Value) : Result String :=
  match id with
  | .text s => .ok s
  | other => .error (.edit (.noField other page.name))

/-- The routing reads the field. -/
def routesBy (page : Page) (id : String) : Bool :=
  match page.routing with
  | some routing => routing.fieldId.isText id
  | none => false

end Page

/-- The changes of a page: new attributes, and a new routing if one is given. -/
structure PageChanges where
  attributes : Table Value
  routing : Option (Option Routing)
  deriving Repr

namespace Page

/-- The attributes of a page that can be changed, besides its routing. -/
def attributeNames : List String :=
  ["id", "name", "description", "action_name", "summary_check_expression"]

/-- The page with its attributes changed. -/
def revise (page : Page) (changes : PageChanges) : Result Page :=
  let attrs := changes.attributes
  if attrs.has "fields" then .error (.edit .fieldsNotEditable)
  else if attrs.keys.any fun name => !attributeNames.contains name then
    .error (.edit .badPageChange)
  else
    .ok
      { page with
        id := (attrs.find? "id").getD page.id
        name := (attrs.find? "name").getD page.name
        description := (attrs.find? "description").getD page.description
        actionName := (attrs.find? "action_name").getD page.actionName
        summaryCheck := (attrs.find? "summary_check_expression").getD page.summaryCheck
        routing := changes.routing.getD page.routing }

/-- The place at which a new field is put: at the end, or counted from the end when the position
is negative, and never outside the list. -/
def insertIndex (length : Nat) (position : Option Int) : Nat :=
  match position with
  | none => length
  | some p => if p < 0 then (p + length).toNat else min p.toNat length

/-- A position that no list can have, at its front or counted from its end: it takes more than
64 bits with its sign. -/
def isBeyondLists (position : Int) : Bool :=
  position < -(twoTo 63 : Int) || (twoTo 63 : Int) ≤ position

/-- The page with a field added. -/
def addField (page : Page) (field : Field) (position : Option Int) : Result Page :=
  if (page.fieldById? field.id).isSome then
    .error (.edit (.takenId (.text field.id) page.name))
  else if position.any isBeyondLists then .error (.value .overflow)
  else
    .ok { page with
      fields := page.fields.insertIdx (insertIndex page.fields.length position) field }

/-- A field that depended on a renamed one depends on it under its new id. -/
def redirect (old new : String) (field : Field) : Field :=
  if field.dependsOn.isText old then { field with dependsOn := .text new } else field

/-- The page with one field replaced. When the id is new, dependencies and the routing follow. -/
def replaceField (page : Page) (index : Nat) (old : String) (field : Field) : Page :=
  let fields := page.fields.set index field
  if field.id = old then { page with fields := fields }
  else
    { page with
      fields := fields.map (redirect old field.id)
      routing := page.routing.map fun routing =>
        if routing.fieldId.isText old then { routing with fieldId := .text field.id }
        else routing }

/-- A field with changed attributes; a fault of type is reported as a fault of the edit. -/
def reviseField (field : Field) (id : String) (changes : Table Value) : Result Field :=
  match field.revise changes with
  | .error (.value .mistyped) => .error (.edit (.badFieldChange field.kind id))
  | result => result

/-- The page with a field changed. A change of kind comes first, then the check of a new id, then
the other changes. -/
def updateField (page : Page) (id : String) (changes : Table Value) : Result Page := do
  let index ← page.fieldIndex id
  match page.fields[index]? with
  | none => throw (.edit (.noField (.text id) page.name))
  | some field => do
      let field ← match changes.find? "kind" with
        | some kind => (FieldKind.ofValue kind).map field.convert
        | none => pure field
      let newId := (changes.find? "id").getD (.text id)
      if !newId.isText id && (page.field? newId).isSome then
        throw (.edit (.takenId newId page.name))
      let field ← reviseField field id (changes.erase "kind")
      pure (page.replaceField index id field)

/-- A field without its dependency on a removed one. -/
def release (id : String) (field : Field) : Field :=
  if field.dependsOn.isText id then { field with dependsOn := .null, showWhen := .null }
  else field

/-- The page without the fields of an id, the dependencies on them and the routing by them. -/
def removeField (page : Page) (id : String) : Result Page := do
  let _ ← page.fieldIndex id
  pure
    { page with
      fields := (page.fields.filter fun field => field.id ≠ id).map (release id)
      routing := if page.routesBy id then none else page.routing }

/-- The page with one field moved to another place. -/
def moveField (page : Page) (source target : Int) : Result Page :=
  let length : Int := page.fields.length
  let outside := EditFault.badMove source target page.name
  if 0 ≤ source ∧ source < length ∧ 0 ≤ target ∧ target < length then
    match page.fields[source.toNat]? with
    | some field =>
        .ok { page with
          fields := (page.fields.eraseIdx source.toNat).insertIdx target.toNat field }
    | none => .error (.edit outside)
  else .error (.edit outside)

end Page

/-- An edit of a form. -/
inductive Edit where
  | addPage
  | removePage (index : Int)
  | updatePage (index : Int) (changes : PageChanges)
  | setRouting (index : Int) (routing : Option Routing)
  | addField (index : Int) (field : Field) (position : Option Int)
  | updateField (index : Int) (id : Value) (changes : Table Value)
  | removeField (index : Int) (id : Value)
  | moveField (index : Int) (source target : Int)
  deriving Repr

namespace Edit

/-- The edit that changes the attributes of a page. The words for the form and the place are not
attributes, and a new routing is read from its saved form. -/
def ofPageChanges (index : Int) (changes : Table Value) : Result Edit := do
  let routing ← match changes.find? "navigation_rule" with
    | some document => (Routing.ofDocument document).map some
    | none => pure none
  if changes.has "flow" || changes.has "index" then throw .mistyped
  pure (.updatePage index ⟨changes.erase "navigation_rule", routing⟩)

/-- The edit that changes the attributes of a field. The words for the form, the place and the
field are not attributes. A routing is none either, but what is given for one is read first. -/
def ofFieldChanges (index : Int) (id : Value) (changes : Table Value) : Result Edit := do
  let _ ← (changes.find? "navigation_rule").mapM Routing.ofDocument
  if changes.has "flow" || changes.has "step_index" || changes.has "field_id" then
    throw .mistyped
  pure (.updateField index id changes)

end Edit

namespace Form

/-- A new form with this name and one page. -/
def new (name : Value) : Form where
  name := name
  description := .text ""
  pages := [.numbered 1]
  id := .null
  createdAt := .null
  updatedAt := .null

/-- The name of a new form. -/
def newName : String := "New Form Flow"

/-- The page at an index, with its place. -/
def pageAt (form : Form) (index : Int) : Result (Nat × Page) :=
  if index < 0 then .error (.edit (.noPage index))
  else
    match form.pages[index.toNat]? with
    | some page => .ok (index.toNat, page)
    | none => .error (.edit (.noPage index))

/-- The form with the page at an index changed. -/
def onPage (form : Form) (index : Int) (change : Page → Result Page) : Result Form := do
  let (place, page) ← form.pageAt index
  let page ← change page
  pure { form with pages := form.pages.set place page }

/-- The number is used by an id or a name of a page. -/
def usesNumber (form : Form) (number : Nat) : Bool :=
  let page := Page.numbered number
  form.pages.any fun other => other.id.same page.id || other.name.same page.name

/-- The first number above the count of pages that no page uses. Each page uses at most two
numbers, so one of the first `2 * n + 1` is free. -/
def freeNumber (form : Form) : Nat :=
  let start := form.pages.length + 1
  let numbers := (List.range (2 * form.pages.length + 1)).map (· + start)
  (numbers.find? fun number => !form.usesNumber number).getD start

/-- The form with a new page at the end. Ids and names must not be lists or records. -/
def addPage (form : Form) : Result Form :=
  let cannotBeKept (value : Value) : Bool := value.list?.isSome || value.record?.isSome
  if form.pages.any fun page => cannotBeKept page.id || cannotBeKept page.name then
    .error .mistyped
  else .ok { form with pages := form.pages ++ [.numbered form.freeNumber] }

/-- The form without a page; the last page stays. -/
def removePage (form : Form) (index : Int) : Result Form := do
  let (place, _) ← form.pageAt index
  if form.pages.length ≤ 1 then throw (.edit .lastPage)
  pure { form with pages := form.pages.eraseIdx place }

/-- Apply an edit. -/
def edit (form : Form) : Edit → Result Form
  | .addPage => form.addPage
  | .removePage index => form.removePage index
  | .updatePage index changes => form.onPage index fun page => page.revise changes
  | .setRouting index routing => form.onPage index fun page => .ok { page with routing := routing }
  | .addField index field position =>
      form.onPage index fun page => page.addField field position
  | .updateField index id changes =>
      form.onPage index fun page => do page.updateField (← page.idOf id) changes
  | .removeField index id => form.onPage index fun page => do page.removeField (← page.idOf id)
  | .moveField index source target =>
      form.onPage index fun page => page.moveField source target

/-- Apply an edit, or leave the form as it is when the edit cannot be applied. -/
def tryEdit (form : Form) (e : Edit) : Form :=
  match form.edit e with
  | .ok edited => edited
  | .error _ => form

/-- The ids of the fields of a page that may not be there. -/
def fieldIdsAt (form : Form) (index : Int) : List String :=
  match form.pageAt index with
  | .ok (_, page) => page.fieldIds
  | .error _ => []

end Form

end PagedForm
