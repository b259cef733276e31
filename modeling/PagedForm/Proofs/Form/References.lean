import Mathlib.Logic.Relation
import PagedForm.Example
import PagedForm.Proofs.Form.DistinctIds

/-!
# Edits leave no reference dangling

A field refers to another by its dependency, and a routing to its driver. A form is closed when all
of these references name fields of their own page. Edits that bring no other references keep a form
closed: an update takes the references to a renamed field along, and a removal drops those to what
is removed. Neither needs the ids to be distinct.
-/

namespace PagedForm

/-- A reference after a field was renamed: what named it under its old id names it under the new
one. -/
def Value.redirected (old new : String) (reference : Value) : Value :=
  if reference.isText old then .text new else reference

/-- A routing after a field was renamed. -/
def Routing.redirected (old new : String) (routing : Routing) : Routing :=
  { routing with fieldId := routing.fieldId.redirected old new }

/-- A reference to a field that keeps its id stays as it is. -/
@[simp] theorem Value.redirected_self (id : String) (reference : Value) :
    reference.redirected id id = reference := by
  unfold redirected
  split
  · next h => exact (same_text_iff.1 h).symm
  · rfl

/-- Only a reference that names the renamed field changes. -/
theorem Value.redirected_of_ne {old new : String} {reference : Value}
    (h : reference ≠ .text old) : reference.redirected old new = reference :=
  if_neg fun hsame => h (same_text_iff.1 hsame)

namespace Page

variable {page other : Page}

/-- The dependency of a redirected field is a redirected reference. -/
theorem redirect_eq (old new : String) (field : Field) :
    redirect old new field =
      { field with dependsOn := field.dependsOn.redirected old new } := by
  unfold redirect Value.redirected
  split <;> rfl

/-- When a field is replaced, all references follow it, whether its id is new or not. -/
theorem replaceField_eq (place : Nat) (old : String) (field : Field) :
    page.replaceField place old field =
      { page with
        fields := (page.fields.set place field).map (redirect old field.id)
        routing := page.routing.map (Routing.redirected old field.id) } := by
  unfold replaceField
  split
  · next hsame =>
      have hfields : redirect old old = fun kept => kept := by
        funext kept
        rw [redirect_eq, Value.redirected_self]
      have hrouting : Routing.redirected old old = fun routing => routing := by
        funext routing
        rw [Routing.redirected, Value.redirected_self]
      rw [hsame, hfields, hrouting, List.map_id', Option.map_id']
  · have hrouting (routing : Routing) :
        (if routing.fieldId.isText old then { routing with fieldId := .text field.id }
          else routing) = routing.redirected old field.id := by
      unfold Routing.redirected Value.redirected
      split <;> rfl
    simp only [hrouting]

/-! ## References -/

/-- The reference is the id of a field of the page. -/
def Names (page : Page) (reference : Value) : Prop :=
  ∃ id ∈ page.fieldIds, reference = .text id

/-- Every dependency that is given, and the driver of the routing if there is one, is a field of
the page. -/
structure IsClosed (page : Page) : Prop where
  dependsOn : ∀ field ∈ page.fields, field.dependsOn.truthy = true → page.Names field.dependsOn
  routing : ∀ routing ∈ page.routing, page.Names routing.fieldId

/-- A page names exactly what it finds a field by. -/
theorem names_iff {reference : Value} :
    page.Names reference ↔ (page.field? reference).isSome = true := by
  unfold Names field?
  split
  · next id =>
      simp only [Value.atom.injEq, Atom.text.injEq, exists_eq_right']
      rw [Option.isSome_iff_ne_none, ne_eq, fieldById?_eq_none, not_not]
  · next hother =>
      constructor
      · rintro ⟨id, _, rfl⟩
        exact absurd rfl (hother id)
      · intro h
        cases h

instance (page : Page) (reference : Value) : Decidable (page.Names reference) :=
  decidable_of_iff _ names_iff.symm

/-- What a page names is named by every page with its ids. -/
theorem Names.mono {reference : Value} (h : page.Names reference)
    (hids : page.fieldIds ⊆ other.fieldIds) : other.Names reference := by
  obtain ⟨id, hid, rfl⟩ := h
  exact ⟨id, hids hid, rfl⟩

/-- What a page names is named, once redirected, after a field was replaced. -/
theorem Names.replaceField {reference : Value} (h : page.Names reference) {place : Nat}
    {old : String} (hplace : page.fieldIds[place]? = some old) (field : Field) :
    (page.replaceField place old field).Names (reference.redirected old field.id) := by
  obtain ⟨id, hid, rfl⟩ := h
  rw [Names, fieldIds_replaceField]
  by_cases hsame : id = old
  · -- The reference is to the replaced field, whose id stands in its place.
    obtain ⟨hlt, _⟩ := List.getElem?_eq_some_iff.1 hplace
    exact ⟨field.id, List.mem_set hlt field.id, by simp [Value.redirected, Value.isText, hsame]⟩
  · -- The reference is to a field in another place.
    refine ⟨id, ?_, Value.redirected_of_ne (by simpa using hsame)⟩
    obtain ⟨index, hindex⟩ := List.mem_iff_getElem?.1 hid
    have hother : place ≠ index := by
      rintro rfl
      exact hsame (Option.some.inj (hindex.symm.trans hplace))
    exact List.mem_of_getElem? ((List.getElem?_set_ne hother).trans hindex)

/-- What a page names is named after fields were removed, unless it named them. -/
theorem Names.removeField {reference : Value} (h : page.Names reference) {id : String}
    (hne : reference.isText id = false) (hother : page.removeField id = .ok other) :
    other.Names reference := by
  obtain ⟨named, hnamed, rfl⟩ := h
  refine ⟨named, ?_, rfl⟩
  rw [fieldIds_removeField hother]
  refine List.mem_filter.2 ⟨hnamed, decide_eq_true ?_⟩
  rintro rfl
  simp [Value.isText] at hne

instance (page : Page) : Decidable page.IsClosed :=
  decidable_of_iff
    ((∀ field ∈ page.fields, field.dependsOn.truthy = true → page.Names field.dependsOn) ∧
      ∀ routing ∈ page.routing, page.Names routing.fieldId)
    ⟨fun h => ⟨h.1, h.2⟩, fun h => ⟨h.dependsOn, h.routing⟩⟩

/-! ## Edits of a page -/

/-- A new page refers to nothing. -/
theorem isClosed_numbered (number : Nat) : (numbered number).IsClosed where
  dependsOn := fun field hfield => by cases hfield
  routing := fun routing hrouting => by cases hrouting

/-- A page with the same ids, whose fields and routing refer to what was named before, is closed. -/
theorem IsClosed.of_fields (h : page.IsClosed) (hids : page.fieldIds ⊆ other.fieldIds)
    (hfields : ∀ field ∈ other.fields, field ∈ page.fields ∨
      (field.dependsOn.truthy = true → page.Names field.dependsOn))
    (hrouting : ∀ routing ∈ other.routing, page.Names routing.fieldId) : other.IsClosed where
  dependsOn := by
    intro field hfield hgiven
    rcases hfields field hfield with hold | hnamed
    · exact (h.dependsOn field hold hgiven).mono hids
    · exact (hnamed hgiven).mono hids
  routing := fun routing hmem => (hrouting routing hmem).mono hids

/-- A closed page stays closed when its attributes are revised, if a new routing is driven by one
of its fields. -/
theorem IsClosed.revise (h : page.IsClosed) {changes : PageChanges}
    (hchanges : ∀ given ∈ changes.routing, ∀ routing ∈ given, page.Names routing.fieldId)
    (hother : page.revise changes = .ok other) : other.IsClosed := by
  obtain rfl := revise_eq_ok hother
  refine h.of_fields (List.Subset.refl _) (fun field hfield => .inl hfield) ?_
  intro routing hrouting
  cases hgiven : changes.routing with
  | none =>
      rw [hgiven] at hrouting
      exact h.routing routing hrouting
  | some given =>
      rw [hgiven] at hrouting
      exact hchanges given hgiven routing hrouting

/-- A closed page stays closed when a field is added that depends on nothing or on one of its
fields. -/
theorem IsClosed.addField (h : page.IsClosed) {field : Field} {position : Option Int}
    (hfield : field.dependsOn.truthy = true → page.Names field.dependsOn)
    (hother : page.addField field position = .ok other) : other.IsClosed := by
  obtain ⟨_, hperm⟩ := perm_addField hother
  have hrouting : other.routing = page.routing := by
    obtain ⟨_, rfl⟩ := addField_eq_ok hother
    rfl
  refine h.of_fields (fun id hid => ?_) (fun added hadded => ?_) (hrouting ▸ h.routing)
  · exact (hperm.map Field.id).mem_iff.2 (List.mem_cons_of_mem _ hid)
  · rcases List.mem_cons.1 (hperm.mem_iff.1 hadded) with rfl | hold
    · exact .inr hfield
    · exact .inl hold

/-- A closed page stays closed when a field is replaced by one with the same dependency. -/
theorem IsClosed.replaceField (h : page.IsClosed) {place : Nat} {before field : Field}
    (hplace : page.fields[place]? = some before) (hdepends : field.dependsOn = before.dependsOn) :
    (page.replaceField place before.id field).IsClosed := by
  have hold := getElem?_fieldIds hplace
  constructor
  · intro put hput hgiven
    rw [replaceField_eq, List.mem_map] at hput
    obtain ⟨kept, hkept, rfl⟩ := hput
    rw [redirect_eq] at hgiven ⊢
    dsimp only at hgiven ⊢
    -- What is redirected is the dependency of a field that the page had.
    obtain ⟨source, hsource, heq⟩ : ∃ source ∈ page.fields, kept.dependsOn = source.dependsOn := by
      rcases List.mem_or_eq_of_mem_set hkept with hsame | rfl
      · exact ⟨kept, hsame, rfl⟩
      · exact ⟨before, List.mem_of_getElem? hplace, hdepends⟩
    rw [heq] at hgiven ⊢
    by_cases hname : source.dependsOn = .text before.id
    · have hnamed : page.Names source.dependsOn :=
        ⟨before.id, List.mem_of_getElem? hold, hname⟩
      exact hnamed.replaceField hold field
    · rw [Value.redirected_of_ne hname] at hgiven
      exact (h.dependsOn source hsource hgiven).replaceField hold field
  · intro routing hrouting
    rw [replaceField_eq] at hrouting
    obtain ⟨kept, hkept, rfl⟩ := Option.mem_map.1 hrouting
    exact (h.routing kept hkept).replaceField hold field

/-- A closed page stays closed when a field is updated and no dependency is given to it. -/
theorem IsClosed.updateField (h : page.IsClosed) {id : String} {changes : Table Value}
    (hchanges : changes.find? "depends_on" = none)
    (hother : page.updateField id changes = .ok other) : other.IsClosed := by
  obtain ⟨place, field, converted, revised, _, hfield, rfl, hkind, _, hbuild, rfl⟩ :=
    updateField_eq_ok hother
  obtain ⟨_, _, _, _, hdepends, _⟩ := Field.build_eq_ok.1 hbuild
  have hconverted : converted.dependsOn = field.dependsOn := by
    rcases hkind with ⟨_, rfl⟩ | ⟨_, kind, _, _, rfl⟩
    · rfl
    · obtain ⟨body, hconvert⟩ := field.exists_convert_eq kind
      rw [hconvert]
  have hkept : (converted.attributes.merge (changes.erase "kind")).find? "depends_on" =
      some converted.dependsOn := by
    refine Table.find?_merge_of_find?_eq_none ?_
    rw [Table.find?_erase, if_neg (by decide), hchanges]
  rw [Field.valueOf, hkept] at hdepends
  exact h.replaceField hfield (hdepends.trans hconverted)

/-- A closed page stays closed when fields are removed. -/
theorem IsClosed.removeField (h : page.IsClosed) {id : String}
    (hother : page.removeField id = .ok other) : other.IsClosed := by
  have hnames {reference : Value} (hnamed : page.Names reference)
      (hne : reference.isText id = false) : other.Names reference :=
    hnamed.removeField hne hother
  obtain rfl := removeField_eq_ok hother
  constructor
  · intro field hfield hgiven
    obtain ⟨kept, hkept, rfl⟩ := List.mem_map.1 hfield
    unfold release at hgiven ⊢
    split at hgiven
    · cases hgiven
    · next hne =>
        rw [if_neg hne]
        exact hnames (h.dependsOn kept (List.mem_of_mem_filter hkept) hgiven)
          (Bool.eq_false_iff.2 hne)
  · intro routing hrouting
    dsimp only at hrouting
    split at hrouting
    · cases hrouting
    · next hother =>
        refine hnames (h.routing routing hrouting) ?_
        rw [routesBy, hrouting] at hother
        exact Bool.eq_false_iff.2 hother

/-- A closed page stays closed when a field is moved. -/
theorem IsClosed.moveField (h : page.IsClosed) {source target : Int}
    (hother : page.moveField source target = .ok other) : other.IsClosed := by
  have hperm := perm_moveField hother
  have hrouting : other.routing = page.routing := by
    obtain ⟨_, _, _, rfl⟩ := moveField_eq_ok hother
    rfl
  exact h.of_fields (fun id hid => (hperm.map Field.id).mem_iff.2 hid)
    (fun field hfield => .inl (hperm.mem_iff.1 hfield)) (hrouting ▸ h.routing)

end Page

/-- The edit brings to a page no references but to its fields. -/
def Edit.RefersWithin (page : Page) : Edit → Prop
  | .addField _ field _ => field.dependsOn.truthy = true → page.Names field.dependsOn
  | .updateField _ _ changes => changes.find? "depends_on" = none
  | .setRouting _ routing => ∀ r ∈ routing, page.Names r.fieldId
  | .updatePage _ changes => ∀ given ∈ changes.routing, ∀ r ∈ given, page.Names r.fieldId
  | .addPage | .removePage _ | .removeField _ _ | .moveField _ _ _ => True

/-- A closed page stays closed when it is edited and only references to its fields are brought to
it. -/
theorem Page.IsClosed.edit {page other : Page} (h : page.IsClosed) {e : Edit}
    (he : e.RefersWithin page) (hother : page.edit e = .ok other) : other.IsClosed := by
  cases e with
  | addPage | removePage =>
      cases hother
      exact h
  | updatePage _ changes => exact h.revise he hother
  | setRouting _ routing =>
      cases hother
      exact h.of_fields (List.Subset.refl _) (fun field hfield => .inl hfield) he
  | addField _ field position => exact h.addField he hother
  | updateField _ id changes =>
      obtain ⟨named, _, hother⟩ := Result.bind_eq_ok.1 hother
      exact h.updateField he hother
  | removeField _ id =>
      obtain ⟨named, _, hother⟩ := Result.bind_eq_ok.1 hother
      exact h.removeField hother
  | moveField _ source target => exact h.moveField hother

namespace Form

variable {form : Form}

/-- All pages of the form are closed. -/
def IsClosed (form : Form) : Prop :=
  ∀ page ∈ form.pages, page.IsClosed

instance (form : Form) : Decidable form.IsClosed :=
  inferInstanceAs (Decidable (∀ page ∈ form.pages, page.IsClosed))

/-- The edit brings to the page that it changes no references but to the fields of that page. -/
def Admits (form : Form) (e : Edit) : Prop :=
  ∀ index ∈ e.pageIndex?, ∀ place page, form.pageAt index = .ok (place, page) →
    e.RefersWithin page

/-- One form is made of another by an edit that the other admits. -/
def EditsTo (form other : Form) : Prop :=
  ∃ e, form.Admits e ∧ form.edit e = .ok other

/-- A closed form stays closed in every edit that it admits. -/
theorem IsClosed.edit (h : form.IsClosed) {e : Edit} (he : form.Admits e) {other : Form}
    (hother : form.edit e = .ok other) : other.IsClosed :=
  forall_pages_of_edit hother h Page.isClosed_numbered
    fun index place page _ hindex hat hpage hchanged =>
      hpage.edit (he index hindex place page hat) hchanged

/-- Every edit that a closed form admits and that can be applied gives a closed form, and so does
every sequence of such edits. -/
theorem edits_keep_references (h : form.IsClosed) :
    (∀ e other, form.Admits e → form.edit e = .ok other → other.IsClosed) ∧
      ∀ other, Relation.ReflTransGen EditsTo form other → other.IsClosed := by
  refine ⟨fun e other he hother => h.edit he hother, fun other hedits => ?_⟩
  induction hedits with
  | refl => exact h
  | tail _ hstep ih =>
      obtain ⟨e, he, hother⟩ := hstep
      exact ih.edit he hother

/-- The edit that gives a new id and another kind to the field that drives the first page of the
example form. -/
def renameAccess : Edit :=
  .updateField 0 (.text "siteAccess") [("id", .text "access"), ("kind", .text "select")]

/-- The edit that removes this field. -/
def removeAccess : Edit :=
  .removeField 0 (.text "access")

/-- The field that drives the first page of the example form, and on which another field depends,
can be renamed and then removed. -/
theorem edits_keep_references_access :
    Example.form.IsClosed ∧ Example.form.Admits renameAccess ∧
      ∃ renamed removed, Example.form.edit renameAccess = .ok renamed ∧ renamed.IsClosed ∧
        renamed.Admits removeAccess ∧ renamed.edit removeAccess = .ok removed ∧
        removed.IsClosed := by
  have hclosed : Example.form.IsClosed := by decide
  have hrename : Example.form.Admits renameAccess := fun _ _ _ _ _ => rfl
  have hremove (form : Form) : form.Admits removeAccess := fun _ _ _ _ _ => trivial
  obtain ⟨renamed, hrenamed⟩ : ∃ renamed, Example.form.edit renameAccess = .ok renamed := ⟨_, rfl⟩
  obtain ⟨removed, hremoved⟩ : ∃ removed, renamed.edit removeAccess = .ok removed := by
    cases hrenamed
    exact ⟨_, rfl⟩
  have hsteps : Relation.ReflTransGen EditsTo Example.form removed :=
    .tail (.single ⟨_, hrename, hrenamed⟩) ⟨_, hremove renamed, hremoved⟩
  exact ⟨hclosed, hrename, renamed, removed, hrenamed,
    (edits_keep_references hclosed).1 _ _ hrename hrenamed, hremove renamed, hremoved,
    (edits_keep_references hclosed).2 _ hsteps⟩

end Form

end PagedForm
