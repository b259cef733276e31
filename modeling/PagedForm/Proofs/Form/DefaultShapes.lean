import PagedForm.Example
import PagedForm.Field.Document
import PagedForm.Proofs.Field.Shape
import PagedForm.Proofs.Form.Editing
import PagedForm.Proofs.Form.Loading
import PagedForm.Proofs.Form.Typed

/-!
# Defaults keep the shape of their fields

There are four ways to obtain a field: to define it, to load it, to convert one and to update one.
Each of them gives a field that can be defined, so the default of an obtained field is absent, a
reference or in the shape of its answers. An update after which the default would not be in the
shape that the new attributes ask for is refused.
-/

namespace PagedForm

/-- The fields that any sequence of definitions, readings, conversions and updates gives. -/
inductive Field.Obtained : Field → Prop where
  | defined {kind : Value} {attrs : Table Value} {field : Field} :
      Field.defineNamed kind attrs = .ok field → Obtained field
  | loaded {document : Value} {field : Field} :
      Field.ofDocument document = .ok field → Obtained field
  | converted {field other : Field} {kind : Value} :
      Obtained field → (FieldKind.ofValue kind).map field.convert = .ok other → Obtained other
  | updated {form other : Form} {index : Int} {id : Value} {changes : Table Value} {page : Page}
      {field : Field} :
      (∀ page ∈ form.pages, ∀ field ∈ page.fields, Obtained field) →
      form.edit (.updateField index id changes) = .ok other →
      page ∈ other.pages → field ∈ page.fields → Obtained field

namespace Field

variable {field : Field}

/-- A field with a named kind can be defined. -/
theorem isDefined_of_defineNamed {kind : Value} {attrs : Table Value}
    (h : defineNamed kind attrs = .ok field) : field.IsDefined := by
  unfold defineNamed at h
  split at h
  · cases h
  · split at h
    · exact isDefined_iff.2 ⟨_, _, h⟩
    · cases h

/-- A field that can be defined still can when it follows a renamed one. -/
theorem IsDefined.redirect (h : field.IsDefined) (old new : String) :
    (Page.redirect old new field).IsDefined := by
  unfold Page.redirect
  split
  · exact ⟨h.id, h.body⟩
  · exact h

end Field

/-- After an update the fields of a page can be defined when they could before. -/
theorem Page.forall_isDefined_updateField {page other : Page} {id : String}
    {changes : Table Value} (hfields : ∀ field ∈ page.fields, field.IsDefined)
    (hother : page.updateField id changes = .ok other) :
    ∀ field ∈ other.fields, field.IsDefined := by
  obtain ⟨place, _, _, revised, _, _, _, _, _, hbuild, rfl⟩ := updateField_eq_ok hother
  exact forall_fields_of_replaceField hfields place id (Field.isDefined_of_build hbuild)
    fun _ _ hfield => hfield.redirect _ _

/-- After an update the fields of a form can be defined when they could before. -/
theorem Form.IsDefined.updateField {form other : Form} (h : form.IsDefined) {index : Int}
    {id : Value} {changes : Table Value}
    (hother : form.edit (.updateField index id changes) = .ok other) : other.IsDefined := by
  refine forall_pages_of_edit hother h (fun _ _ hfield => by cases hfield) ?_
  intro _ _ page changed _ _ hfields hchanged
  obtain ⟨named, _, hchanged⟩ := Result.bind_eq_ok.1 hchanged
  exact Page.forall_isDefined_updateField hfields hchanged

namespace Field

variable {field : Field}

/-- Every obtained field can be defined. -/
theorem Obtained.isDefined (h : field.Obtained) : field.IsDefined := by
  induction h with
  | defined hdefine => exact isDefined_of_defineNamed hdefine
  | loaded hload => exact isDefined_of_ofDocument hload
  | converted _ hconvert ih =>
      obtain ⟨kind, _, rfl⟩ := Result.map_eq_ok.1 hconvert
      exact ih.convert kind
  | updated _ hedit hpage hfield ih =>
      exact Form.IsDefined.updateField ih hedit _ hpage _ hfield

/-- A field that is changed like this becomes one of a kind: the one that is given, or its own. -/
def TakesKind (field : Field) (changes : Table Value) (kind : FieldKind) : Prop :=
  changes.find? "kind" = none ∧ kind = field.kind ∨
    ∃ value, changes.find? "kind" = some value ∧ FieldKind.ofValue value = .ok kind

/-- The attributes of a field that is converted to a kind and then changed. -/
def changedAttributes (field : Field) (changes : Table Value) (kind : FieldKind) : Table Value :=
  (field.convert kind).attributes.merge (changes.erase "kind")

/-- The default that a field has after these changes is not one for the shape that it has then. -/
def BreaksShape (field : Field) (changes : Table Value) : Prop :=
  ∀ kind, field.TakesKind changes kind → ∀ initial : Default,
    initial.toValue = valueOf (field.changedAttributes changes kind) "default_value" .null →
    ¬ initial.Fits
      (kind.shape (valueOf (field.changedAttributes changes kind) "multiple" (.bool false)).truthy)

/-- A built field has a default that fits the shape of the attributes. -/
theorem fits_of_build {kind : FieldKind} {attrs : Table Value} (h : build kind attrs = .ok field) :
    field.initial.Fits (kind.shape (valueOf attrs "multiple" (.bool false)).truthy) :=
  shape_of_build h ▸ (isDefined_of_build h).fits

end Field

/-- Changes that break the shape of a field are refused by its page. -/
theorem Page.updateField_ne_ok {page : Page} {field : Field}
    (hfield : page.fieldById? field.id = some field) {changes : Table Value}
    (hbreaks : field.BreaksShape changes) (other : Page) :
    page.updateField field.id changes ≠ .ok other := by
  intro hother
  obtain ⟨place, found, converted, revised, hplace, hfound, _, hkind, _, hbuild, _⟩ :=
    updateField_eq_ok hother
  obtain rfl : found = field := by
    obtain ⟨first, hfirst, hbyId, _⟩ := fieldById?_of_fieldIndex? hplace
    rw [hfound] at hfirst
    rw [hfield] at hbyId
    exact (Option.some.inj hfirst).trans (Option.some.inj hbyId).symm
  -- Without a given kind the conversion to the own kind changes nothing.
  obtain ⟨kind, htakes, rfl⟩ :
      ∃ kind, found.TakesKind changes kind ∧ converted = found.convert kind := by
    rcases hkind with ⟨hnone, rfl⟩ | ⟨value, kind, hvalue, hkind, rfl⟩
    · exact ⟨converted.kind, .inl ⟨hnone, rfl⟩, (if_pos rfl).symm⟩
    · exact ⟨kind, .inr ⟨value, hvalue, hkind⟩, rfl⟩
  rw [Field.kind_convert] at hbuild
  exact hbreaks kind htakes revised.initial (Field.initial_of_build hbuild)
    (Field.fits_of_build hbuild)

namespace Field

variable {field : Field}

/-- The default of every obtained field is absent, a reference or in the shape of its answers. The
field starts with the empty answer of that shape if there is no default, and otherwise with the
reference or an answer of the shape. An update that would break the shape is refused. -/
theorem Obtained.keeps_shape (h : field.Obtained) :
    field.initial.Fits field.shape ∧
    (field.initial = .absent → field.initialAnswer = field.shape.empty) ∧
    (field.initial ≠ .absent →
      (∃ s, Template.isReference s = true ∧ field.initialAnswer = .text s) ∨
        field.shape.Holds field.initialAnswer) ∧
    ∀ (form : Form) (index : Nat) (page : Page) (changes : Table Value),
      form.pages[index]? = some page → page.fieldById? field.id = some field →
      field.BreaksShape changes →
      ∃ fault, form.edit (.updateField index (.text field.id) changes) = .error fault := by
  have hfits := h.isDefined.fits
  refine ⟨hfits, initialAnswer_of_absent, initialAnswer_of_fits hfits, ?_⟩
  intro form index page changes hpage hfield hbreaks
  cases hedit : form.edit (.updateField index (.text field.id) changes) with
  | error fault => exact ⟨fault, rfl⟩
  | ok other =>
      rw [Form.edit_eq_onPage rfl] at hedit
      obtain ⟨place, found, changed, hat, hchanged, _⟩ := Form.onPage_eq_ok hedit
      rw [Form.pageAt_natCast hpage] at hat
      cases hat
      exact absurd hchanged (Page.updateField_ne_ok hfield hbreaks changed)

/-- A field for one file that has a default. -/
def planField : Field :=
  Example.field "plan" "Floor plan"
    (.input ⟨.bool false, .bool false, .file (.record [(.text "name", .text "plan.pdf")]),
      .file ⟨[], .null, .bool false, .text "none"⟩⟩)

/-- A form that asks for the plan. -/
def planForm : Form :=
  { Example.form with pages := [Example.page 1 "Plan" "" "" [planField] none] }

/-- The field cannot be made one for several files while it has its default. -/
theorem keeps_shape_plan :
    planField.Obtained ∧ planField.shape.Holds planField.initialAnswer ∧
      planField.BreaksShape [("multiple", .bool true)] ∧
      ∃ fault, planForm.edit (.updateField 0 (.text "plan") [("multiple", .bool true)]) =
        .error fault := by
  have hobtained : planField.Obtained :=
    .defined (show defineNamed (.text "file") planField.attributes = .ok planField from rfl)
  have hbreaks : planField.BreaksShape [("multiple", .bool true)] := by
    rintro kind (⟨_, rfl⟩ | ⟨_, hgiven, _⟩) initial hvalue hfits
    · rcases hfits with rfl | ⟨s, rfl, _⟩ | hshape
      · cases hvalue
      · cases hvalue
      · cases initial with
        | files items => cases hvalue
        | absent | text | choices | file => cases hshape
    · cases hgiven
  obtain ⟨_, _, hstarts, hrefused⟩ := hobtained.keeps_shape
  refine ⟨hobtained, ?_, hbreaks, hrefused planForm 0 _ _ rfl rfl hbreaks⟩
  rcases hstarts (by simp [planField, Example.field, initial]) with ⟨s, _, hanswer⟩ | hholds
  · cases hanswer
  · exact hholds

end Field

end PagedForm
