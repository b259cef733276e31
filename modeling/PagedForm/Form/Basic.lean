import PagedForm.Field.Answer

/-!
# Forms

A form is a sequence of pages, and a page a sequence of fields. The routing of a page says where
its answers lead: the answer of one field picks the first of several branches. Pages are named by
values, since a document may give any, and a target is the name of a page or one of three words.
-/

namespace PagedForm

/-- One branch of a routing: the answer `value` leads to `target`. -/
structure Branch where
  value : Value
  target : Value
  deriving Repr

/-- Where the answers of a page lead. -/
structure Routing where
  fieldId : Value
  branches : List Branch
  defaultTarget : Value
  deriving Repr

/-- A page of a form. -/
structure Page where
  id : Value
  name : Value
  description : Value
  fields : List Field
  actionName : Value
  summaryCheck : Value
  routing : Option Routing
  deriving Repr

/-- A form. -/
structure Form where
  name : Value
  description : Value
  pages : List Page
  id : Value
  createdAt : Value
  updatedAt : Value
  deriving Repr

/-- The target that leads to the next page. -/
def Target.next : String := "continue"

/-- The target that ends the form. -/
def Target.finish : String := "end"

/-- The target that leads to the last page. -/
def Target.last : String := "skip"

/-- A target that is one of the three words. -/
def Target.isWord (target : Value) : Bool :=
  target.isText Target.next || target.isText Target.finish || target.isText Target.last

/-- The target of a routing when no branch is taken. -/
def Routing.fallback (routing : Routing) : Value :=
  routing.defaultTarget.orElse (.text Target.next)

namespace Page

/-- The first field with an id. -/
def fieldById? (page : Page) (id : String) : Option Field :=
  page.fields.find? fun field => field.id = id

/-- The first field whose id is a value; ids are texts. -/
def field? (page : Page) (id : Value) : Option Field :=
  match id with
  | .text s => page.fieldById? s
  | _ => none

/-- A field is found on the page that holds it, under its own id. -/
theorem field?_eq_some {page : Page} {id : Value} {field : Field}
    (h : page.field? id = some field) : field ∈ page.fields ∧ id = .text field.id := by
  unfold field? at h
  split at h
  · next s =>
      have hid : field.id = s := by simpa using List.find?_some h
      exact ⟨List.mem_of_find?_eq_some h, congrArg Value.text hid.symm⟩
  · cases h

/-- The ids of the fields in order. -/
def fieldIds (page : Page) : List String :=
  page.fields.map Field.id

end Page

namespace Form

/-- The first page with a name. -/
def page? (form : Form) (name : Value) : Option Page :=
  form.pages.find? fun page => page.name.same name

/-- The page at an index; a negative index counts from the end. -/
def pageFrom (form : Form) (index : Int) : Result Page :=
  let place := if index < 0 then index + form.pages.length else index
  match if place < 0 then none else form.pages[place.toNat]? with
  | some page => .ok page
  | none => .error (.value .noItem)

/-- The place of the first page with a name. -/
def pageIndex? (form : Form) (name : Value) : Option Nat :=
  form.pages.findIdx? fun page => page.name.same name

end Form

end PagedForm
