import Mathlib.Data.List.InsertIdx
import PagedForm.Proofs.Form.Editing
import PagedForm.Proofs.Form.Typed

/-!
# Edits with attributes of their types

An edit is typed when the attributes that it brings have their types. A typed edit of a typed form
gives a typed form, one lemma for each edit, and so does every sequence of typed edits.
-/

namespace PagedForm

/-- The changes of a page are texts, and a routing that they bring is typed. -/
structure PageChanges.IsTyped (changes : PageChanges) : Prop where
  attributes : ∀ entry ∈ changes.attributes, ∃ s, entry.2 = .text s
  routing : ∀ given ∈ changes.routing, ∀ routing ∈ given, routing.IsTyped

/-- What an edit brings has its types. -/
def Edit.IsTyped : Edit → Prop
  | .updatePage _ changes => changes.IsTyped
  | .setRouting _ routing => ∀ r ∈ routing, r.IsTyped
  | .addField _ field _ => field.IsTyped
  | .updateField _ _ changes => Table.IsTyped changes
  | .addPage | .removePage _ | .removeField _ _ | .moveField _ _ _ => True

/-! ## Fields -/

namespace Field

variable {field : Field}

/-- A typed field stays typed when it depends on other answers. -/
theorem IsTyped.depending (h : field.IsTyped) {dependsOn showWhen : Value}
    (hdepends : AttributeType.optionalText.Admits dependsOn)
    (hshow : AttributeType.optionalText.Admits showWhen) :
    ({ field with dependsOn := dependsOn, showWhen := showWhen } : Field).IsTyped := by
  obtain ⟨hdefined, htitle, _, _, hinput⟩ := isTyped_iff.1 h
  exact isTyped_iff.2 ⟨⟨hdefined.id, hdefined.body⟩, htitle, hdepends, hshow, hinput⟩

/-- A typed field stays typed when it follows a renamed one. -/
theorem IsTyped.redirect (h : field.IsTyped) (old new : String) :
    (Page.redirect old new field).IsTyped := by
  unfold Page.redirect
  split
  · exact h.depending (.inr ⟨new, rfl⟩) (isTyped_iff.1 h).2.2.2.1
  · exact h

/-- A typed field stays typed when it no longer depends on a removed one. -/
theorem IsTyped.release (h : field.IsTyped) (id : String) : (Page.release id field).IsTyped := by
  unfold Page.release
  split
  · exact h.depending (.inl rfl) (.inl rfl)
  · exact h

end Field

/-! ## Pages -/

namespace Page

variable {page other : Page}

/-- A typed page stays typed with other typed fields and another typed routing. -/
theorem IsTyped.withFields (h : page.IsTyped) {fields : List Field} {routing : Option Routing}
    (hfields : ∀ field ∈ fields, field.IsTyped) (hrouting : ∀ r ∈ routing, r.IsTyped) :
    ({ page with fields := fields, routing := routing } : Page).IsTyped :=
  ⟨h.id, h.name, h.description, hfields, h.actionName, h.summaryCheck, hrouting⟩

/-- A page that is added is typed. -/
theorem isTyped_numbered (number : Nat) : (numbered number).IsTyped where
  id := ⟨_, rfl⟩
  name := ⟨_, rfl⟩
  description := ⟨_, rfl⟩
  fields := fun field hfield => by cases hfield
  actionName := ⟨_, rfl⟩
  summaryCheck := ⟨_, rfl⟩
  routing := fun routing hrouting => by cases hrouting

/-- An attribute that is changed to a text, or kept as one, is a text. -/
theorem exists_text_changed {changes : PageChanges} (hchanges : changes.IsTyped) (name : String)
    {value : Value} (hvalue : ∃ s, value = .text s) :
    ∃ s, (changes.attributes.find? name).getD value = .text s := by
  cases hfind : changes.attributes.find? name with
  | none => exact hvalue
  | some given => exact hchanges.attributes _ (Table.mem_of_find? hfind)

/-- A typed page is revised to a typed page. -/
theorem IsTyped.revise (h : page.IsTyped) {changes : PageChanges} (hchanges : changes.IsTyped)
    (hother : page.revise changes = .ok other) : other.IsTyped := by
  obtain rfl := revise_eq_ok hother
  refine ⟨exists_text_changed hchanges "id" h.id, exists_text_changed hchanges "name" h.name,
    exists_text_changed hchanges "description" h.description, h.fields,
    exists_text_changed hchanges "action_name" h.actionName,
    exists_text_changed hchanges "summary_check_expression" h.summaryCheck, ?_⟩
  cases hgiven : changes.routing with
  | none => exact h.routing
  | some given => exact hchanges.routing given hgiven

/-- A typed field is added to a typed page. -/
theorem IsTyped.addField (h : page.IsTyped) {field : Field} (hfield : field.IsTyped)
    {position : Option Int} (hother : page.addField field position = .ok other) :
    other.IsTyped := by
  obtain ⟨_, rfl⟩ := addField_eq_ok hother
  refine h.withFields (fun added hadded => ?_) h.routing
  rcases List.eq_or_mem_of_mem_insertIdx hadded with rfl | hold
  · exact hfield
  · exact h.fields added hold

/-- Putting a typed field in the place of one keeps a page typed. -/
theorem IsTyped.replaceField (h : page.IsTyped) (place : Nat) (old : String) {field : Field}
    (hfield : field.IsTyped) : (page.replaceField place old field).IsTyped := by
  have hfields := forall_fields_of_replaceField h.fields place old hfield fun _ _ hkept =>
    hkept.redirect _ _
  unfold Page.replaceField at hfields ⊢
  dsimp only at hfields ⊢
  split
  · next hsame =>
      rw [if_pos hsame] at hfields
      exact h.withFields hfields h.routing
  · next hrenamed =>
      rw [if_neg hrenamed] at hfields
      refine h.withFields hfields ?_
      intro routing hrouting
      obtain ⟨before, hbefore, rfl⟩ := Option.mem_map.1 hrouting
      have htyped := h.routing before hbefore
      split
      · exact ⟨⟨htyped.value, htyped.target, htyped.default⟩, ⟨field.id, rfl⟩⟩
      · exact htyped

/-- A field of a typed page is updated to a typed field. -/
theorem IsTyped.updateField (h : page.IsTyped) {id : String} {changes : Table Value}
    (hchanges : changes.IsTyped) (hother : page.updateField id changes = .ok other) :
    other.IsTyped := by
  obtain ⟨place, field, converted, revised, _, hfield, _, hkind, _, hbuild, rfl⟩ :=
    updateField_eq_ok hother
  have htyped : field.IsTyped := h.fields field (List.mem_of_getElem? hfield)
  have hconverted : converted.IsTyped := by
    rcases hkind with ⟨_, rfl⟩ | ⟨_, kind, _, _, rfl⟩
    · exact htyped
    · exact htyped.convert kind
  have hattrs := hconverted.attributes.merge (hchanges.erase "kind")
  exact h.replaceField place id (Field.isTyped_of_build hattrs hbuild)

/-- A typed page stays typed when fields are removed. -/
theorem IsTyped.removeField (h : page.IsTyped) {id : String}
    (hother : page.removeField id = .ok other) : other.IsTyped := by
  obtain rfl := removeField_eq_ok hother
  refine h.withFields ?_ ?_
  · rw [List.forall_mem_map]
    exact fun field hfield => (h.fields field (List.mem_of_mem_filter hfield)).release id
  · split
    · exact fun routing hrouting => by cases hrouting
    · exact h.routing

/-- A typed page stays typed when a field is moved. -/
theorem IsTyped.moveField (h : page.IsTyped) {source target : Int}
    (hother : page.moveField source target = .ok other) : other.IsTyped := by
  obtain ⟨field, hfield, _, rfl⟩ := moveField_eq_ok hother
  refine h.withFields (fun moved hmoved => ?_) h.routing
  rcases List.eq_or_mem_of_mem_insertIdx hmoved with rfl | hold
  · exact h.fields moved (List.mem_of_getElem? hfield)
  · exact h.fields moved (List.mem_of_mem_eraseIdx hold)

/-- A typed page stays typed in a typed edit. -/
theorem IsTyped.edit (h : page.IsTyped) {e : Edit} (he : e.IsTyped)
    (hother : page.edit e = .ok other) : other.IsTyped := by
  cases e with
  | addPage | removePage =>
      cases hother
      exact h
  | updatePage _ changes => exact h.revise he hother
  | setRouting _ routing =>
      cases hother
      exact h.withFields h.fields he
  | addField _ field position => exact h.addField he hother
  | updateField _ id changes =>
      obtain ⟨named, _, hother⟩ := Result.bind_eq_ok.1 hother
      exact h.updateField he hother
  | removeField _ id =>
      obtain ⟨named, _, hother⟩ := Result.bind_eq_ok.1 hother
      exact h.removeField hother
  | moveField _ source target => exact h.moveField hother

end Page

/-! ## Forms -/

namespace Form

variable {form other : Form}

/-- A typed form stays typed with other typed pages. -/
theorem IsTyped.withPages (h : form.IsTyped) {pages : List Page}
    (hpages : ∀ page ∈ pages, page.IsTyped) : ({ form with pages := pages } : Form).IsTyped :=
  ⟨h.name, h.description, hpages, h.id, h.createdAt, h.updatedAt⟩

/-- A new form is typed when its name is a text. -/
theorem isTyped_new (name : String) : (new (.text name)).IsTyped where
  name := ⟨name, rfl⟩
  description := ⟨"", rfl⟩
  pages := List.forall_mem_singleton.2 (Page.isTyped_numbered 1)
  id := .inl rfl
  createdAt := .inl rfl
  updatedAt := .inl rfl

/-- A typed edit of a typed form gives a typed form. -/
theorem IsTyped.edit (h : form.IsTyped) {e : Edit} (he : e.IsTyped)
    (hother : form.edit e = .ok other) : other.IsTyped := by
  have hpages : ∀ page ∈ other.pages, page.IsTyped :=
    forall_pages_of_edit hother h.pages Page.isTyped_numbered
      fun _ _ _ _ _ _ hpage hchanged => hpage.edit he hchanged
  -- No edit changes anything of the form but its pages.
  rcases edit_eq_ok hother with rfl | ⟨_, _, rfl⟩ | ⟨_, _, _, _, _, _, _, rfl⟩
  · exact h.withPages hpages
  · exact h.withPages hpages
  · exact h.withPages hpages

/-- A sequence of typed edits of a typed form gives a typed form. -/
theorem IsTyped.edits (h : form.IsTyped) {edits : List Edit} (hedits : ∀ e ∈ edits, e.IsTyped)
    (hother : edits.foldlM Form.edit form = .ok other) : other.IsTyped := by
  induction edits generalizing form with
  | nil =>
      cases hother
      exact h
  | cons e rest ih =>
      obtain ⟨he, hrest⟩ := List.forall_mem_cons.1 hedits
      rw [List.foldlM_cons] at hother
      obtain ⟨edited, hedited, hother⟩ := Result.bind_eq_ok.1 hother
      exact ih (h.edit he hedited) hrest hother

end Form

end PagedForm
