import Mathlib.Data.List.InsertIdx
import Mathlib.Data.List.Nodup
import Mathlib.Data.List.Perm.Basic
import PagedForm.Proofs.Field.Defined
import PagedForm.Proofs.Form.Editing

/-!
# Edits keep the ids of a page apart

What each edit does to the ids of a page is said once. From that, an edit of a page whose ids are
given and distinct gives such a page, and a session of edits always leaves a form with a page, on
each of which the ids are given and distinct.
-/

namespace PagedForm

namespace Page

variable {page other : Page}

/-! ## Ids and fields -/

/-- No field has an id exactly when it is not among the ids of the page. -/
theorem fieldById?_eq_none {id : String} :
    page.fieldById? id = none ↔ id ∉ page.fieldIds := by
  simp [fieldById?, fieldIds]

/-- Where the ids are distinct, a field is found by its id. -/
theorem fieldById?_of_mem (hdistinct : page.fieldIds.Nodup) {field : Field}
    (hfield : field ∈ page.fields) : page.fieldById? field.id = some field := by
  cases hfind : page.fieldById? field.id with
  | none => exact absurd (List.mem_map_of_mem hfield) (fieldById?_eq_none.1 hfind)
  | some found =>
      have hid : found.id = field.id := by simpa using List.find?_some hfind
      have hfound := List.mem_of_find?_eq_some hfind
      rw [List.inj_on_of_nodup_map hdistinct hfound hfield hid]

/-- The id of a field is in the place of the field. -/
theorem getElem?_fieldIds {place : Nat} {field : Field} (h : page.fields[place]? = some field) :
    page.fieldIds[place]? = some field.id := by
  rw [fieldIds, List.getElem?_map, h]
  rfl

/-! ## What edits do to the ids -/

/-- A field is never put outside the list. -/
theorem insertIndex_le (length : Nat) (position : Option Int) :
    insertIndex length position ≤ length := by
  unfold insertIndex
  split
  · exact Nat.le_refl length
  · split <;> omega

/-- Revised attributes leave the ids as they are. -/
theorem fieldIds_revise {changes : PageChanges} (h : page.revise changes = .ok other) :
    other.fieldIds = page.fieldIds := by
  obtain rfl := revise_eq_ok h
  rfl

/-- An added field brings an id that is new, and the others stay on the page. -/
theorem perm_addField {field : Field} {position : Option Int}
    (h : page.addField field position = .ok other) :
    field.id ∉ page.fieldIds ∧ other.fields.Perm (field :: page.fields) := by
  obtain ⟨hfree, rfl⟩ := addField_eq_ok h
  refine ⟨fieldById?_eq_none.1 hfree, ?_⟩
  exact List.perm_insertIdx field page.fields (insertIndex_le _ position)

/-- Redirected fields keep their ids. -/
theorem map_id_redirect (old new : String) (fields : List Field) :
    (fields.map (redirect old new)).map Field.id = fields.map Field.id := by
  rw [List.map_map]
  refine List.map_congr_left fun field _ => ?_
  show (redirect old new field).id = field.id
  unfold redirect
  split <;> rfl

/-- A replaced field puts its id in the place of the old one. -/
theorem fieldIds_replaceField (place : Nat) (old : String) (field : Field) :
    (page.replaceField place old field).fieldIds = page.fieldIds.set place field.id := by
  unfold replaceField
  dsimp only
  split
  · exact List.map_set
  · exact (map_id_redirect old field.id _).trans List.map_set

/-- An updated field has an id that is not empty in the place of its old one. When the changes name
no attribute twice, it is the old id or one that is new. -/
theorem fieldIds_updateField {id : String} {changes : Table Value}
    (h : page.updateField id changes = .ok other) :
    ∃ place new, page.fieldIds[place]? = some id ∧ new ≠ "" ∧
      other.fieldIds = page.fieldIds.set place new ∧
      (changes.keys.Nodup → new = id ∨ new ∉ page.fieldIds) := by
  obtain ⟨place, field, converted, revised, _, hfield, rfl, hkind, hfree, hbuild, rfl⟩ :=
    updateField_eq_ok h
  obtain ⟨_, hid, hne, _⟩ := Field.build_eq_ok.1 hbuild
  refine ⟨place, revised.id, getElem?_fieldIds hfield, hne,
    fieldIds_replaceField place field.id revised, ?_⟩
  intro hkeys
  -- The id that was checked is the one that the revised field has.
  have hchecked : (changes.find? "id").getD (.text field.id) = .text revised.id := by
    have herased : (changes.erase "kind").keys.Nodup :=
      (List.filter_sublist.map Prod.fst).nodup hkeys
    have hconverted : converted.id = field.id := by
      rcases hkind with ⟨_, rfl⟩ | ⟨_, kind, _, _, rfl⟩
      · rfl
      · obtain ⟨body, hconvert⟩ := field.exists_convert_eq kind
        rw [hconvert]
    rw [Table.find?_merge herased, Table.find?_erase, if_neg (by decide)] at hid
    have hown : converted.attributes.find? "id" = some (.text field.id) := by
      rw [← hconverted]
      rfl
    rw [hown] at hid
    cases hgiven : changes.find? "id" with
    | none =>
        rw [hgiven] at hid
        exact Option.some.inj hid
    | some value =>
        rw [hgiven] at hid
        exact Option.some.inj hid
  rw [hchecked] at hfree
  exact hfree.imp (fun hsame => by simpa [Value.isText] using hsame) fieldById?_eq_none.1

/-- Removed fields take their id with them, and the others keep theirs. -/
theorem fieldIds_removeField {id : String} (h : page.removeField id = .ok other) :
    other.fieldIds = page.fieldIds.filter (· ≠ id) := by
  obtain rfl := removeField_eq_ok h
  have hrelease (field : Field) : (release id field).id = field.id := by
    unfold release
    split <;> rfl
  simp [fieldIds, List.filter_map, Function.comp_def, hrelease]

/-- A moved field stays on the page. -/
theorem perm_moveField {source target : Int} (h : page.moveField source target = .ok other) :
    other.fields.Perm page.fields := by
  obtain ⟨field, hfield, htarget, rfl⟩ := moveField_eq_ok h
  obtain ⟨hsource, rfl⟩ := List.getElem?_eq_some_iff.1 hfield
  have hinside : target.toNat ≤ (page.fields.eraseIdx source.toNat).length := by
    rw [List.length_eraseIdx_of_lt hsource]
    omega
  exact (List.perm_insertIdx _ _ hinside).trans (List.getElem_cons_eraseIdx_perm hsource)

end Page

/-! ## Distinct ids -/

/-- The ids of the page are not empty, and no two fields share one. -/
structure Page.HasDistinctIds (page : Page) : Prop where
  distinct : page.fieldIds.Nodup
  given : ∀ id ∈ page.fieldIds, id ≠ ""

/-- A field that an edit adds can be defined, and changes of a field name no attribute twice. -/
def Edit.IsGiven : Edit → Prop
  | .addField _ field _ => field.IsDefined
  | .updateField _ _ changes => changes.keys.Nodup
  | .addPage | .removePage _ | .updatePage _ _ | .setRouting _ _ | .removeField _ _
  | .moveField _ _ _ => True

namespace Page

variable {page other : Page}

/-- A new page has no ids. -/
theorem hasDistinctIds_numbered (number : Nat) : (numbered number).HasDistinctIds :=
  ⟨List.nodup_nil, List.forall_mem_nil _⟩

/-- What has the same ids as a page, in some order, has distinct ids when the page has. -/
theorem HasDistinctIds.of_perm (h : page.HasDistinctIds)
    (hperm : other.fieldIds.Perm page.fieldIds) : other.HasDistinctIds :=
  ⟨hperm.nodup_iff.2 h.distinct, fun id hid => h.given id (hperm.mem_iff.1 hid)⟩

/-- A page with distinct ids keeps them distinct when a field is added. -/
theorem HasDistinctIds.addField (h : page.HasDistinctIds) {field : Field} (hid : field.id ≠ "")
    {position : Option Int} (hother : page.addField field position = .ok other) :
    other.HasDistinctIds := by
  obtain ⟨hnew, hfields⟩ := perm_addField hother
  have hperm : other.fieldIds.Perm (field.id :: page.fieldIds) := hfields.map Field.id
  refine ⟨hperm.nodup_iff.2 (List.nodup_cons.2 ⟨hnew, h.distinct⟩), ?_⟩
  intro id hmem
  rcases List.mem_cons.1 (hperm.mem_iff.1 hmem) with rfl | hold
  · exact hid
  · exact h.given id hold

/-- A page with distinct ids keeps them distinct when a field is updated. -/
theorem HasDistinctIds.updateField (h : page.HasDistinctIds) {id : String}
    {changes : Table Value} (hkeys : changes.keys.Nodup)
    (hother : page.updateField id changes = .ok other) : other.HasDistinctIds := by
  obtain ⟨place, new, hplace, hne, hids, hnew⟩ := fieldIds_updateField hother
  refine ⟨?_, fun other hmem => ?_⟩
  · rw [hids]
    rcases hnew hkeys with rfl | hnew
    · obtain ⟨hlt, hsame⟩ := List.getElem?_eq_some_iff.1 hplace
      rw [← hsame, List.set_getElem_self]
      exact h.distinct
    · exact h.distinct.set hnew
  · rw [hids] at hmem
    rcases List.mem_or_eq_of_mem_set hmem with hold | rfl
    · exact h.given other hold
    · exact hne

/-- A page with distinct ids keeps them distinct when fields are removed. -/
theorem HasDistinctIds.removeField (h : page.HasDistinctIds) {id : String}
    (hother : page.removeField id = .ok other) : other.HasDistinctIds := by
  have hids := fieldIds_removeField hother
  refine ⟨?_, fun kept hmem => ?_⟩
  · rw [hids]
    exact h.distinct.filter _
  · rw [hids] at hmem
    exact h.given kept (List.mem_of_mem_filter hmem)

/-- An edit of a page with distinct ids keeps them distinct. -/
theorem HasDistinctIds.edit (h : page.HasDistinctIds) {e : Edit} (he : e.IsGiven)
    (hother : page.edit e = .ok other) : other.HasDistinctIds := by
  cases e with
  | addPage | removePage =>
      cases hother
      exact h
  | updatePage _ changes => exact h.of_perm (.of_eq (fieldIds_revise hother))
  | setRouting _ routing =>
      cases hother
      exact ⟨h.distinct, h.given⟩
  | addField _ field position => exact h.addField he.id hother
  | updateField _ id changes =>
      obtain ⟨named, _, hother⟩ := Result.bind_eq_ok.1 hother
      exact h.updateField he hother
  | removeField _ id =>
      obtain ⟨named, _, hother⟩ := Result.bind_eq_ok.1 hother
      exact h.removeField hother
  | moveField _ source target => exact h.of_perm ((perm_moveField hother).map Field.id)

end Page

namespace Form

variable {form : Form}

/-- The form has a page, and the ids of each page are distinct. -/
structure HasDistinctIds (form : Form) : Prop where
  pages_ne_nil : form.pages ≠ []
  pages : ∀ page ∈ form.pages, page.HasDistinctIds

/-- A new form has one page without ids. -/
theorem hasDistinctIds_new (name : Value) : (new name).HasDistinctIds :=
  ⟨List.cons_ne_nil _ _, List.forall_mem_singleton.2 (Page.hasDistinctIds_numbered 1)⟩

/-- An edit that can be applied keeps a page and distinct ids. -/
theorem HasDistinctIds.edit (h : form.HasDistinctIds) {e : Edit} (he : e.IsGiven) {other : Form}
    (hother : form.edit e = .ok other) : other.HasDistinctIds := by
  refine ⟨?_, forall_pages_of_edit hother h.pages Page.hasDistinctIds_numbered
    fun _ _ _ _ _ _ hpage hchanged => hpage.edit he hchanged⟩
  have hlength : 0 < form.pages.length := List.length_pos_of_ne_nil h.pages_ne_nil
  refine List.ne_nil_of_length_pos ?_
  rcases edit_eq_ok hother with rfl | ⟨place, hlast, rfl⟩ | ⟨_, place, _, _, _, _, _, rfl⟩
  · simp
  · show 0 < (form.pages.eraseIdx place).length
    rw [List.length_eraseIdx]
    split <;> omega
  · simpa using hlength

/-- A session of edits keeps a page and distinct ids. -/
theorem HasDistinctIds.session (h : form.HasDistinctIds) {edits : List Edit}
    (hedits : ∀ e ∈ edits, e.IsGiven) : (edits.foldl Form.tryEdit form).HasDistinctIds :=
  session_keeps (fun hform he hother => hform.edit he hother) h hedits

/-- After any session of edits of a new form, in which edits that cannot be applied leave the form
as it was, the form has a page, and on every page the ids of the fields are distinct and not
empty. -/
theorem session_keeps_ids_apart (name : Value) {edits : List Edit}
    (hedits : ∀ e ∈ edits, e.IsGiven) :
    (edits.foldl tryEdit (new name)).pages ≠ [] ∧
      ∀ page ∈ (edits.foldl tryEdit (new name)).pages,
        page.fieldIds.Nodup ∧ ∀ id ∈ page.fieldIds, id ≠ "" := by
  have hform := (hasDistinctIds_new name).session hedits
  exact ⟨hform.pages_ne_nil, fun page hpage =>
    ⟨(hform.pages page hpage).distinct, (hform.pages page hpage).given⟩⟩

/-- A field for free text. -/
def textField (id : String) : Field :=
  .plain .text id (.text "Text") (.text .null)

/-- Edits that try to give two fields one id, by a new id and by a new field, and to remove the only
page. -/
def clashingEdits : List Edit :=
  [.addField 0 (textField "a") none, .addField 0 (textField "b") (some (-1)),
   .updateField 0 (.text "a") [("id", .text "b")],
   .updateField 0 (.text "a") [("id", .text "c"), ("kind", .text "radio")],
   .addField 0 (textField "c") (some 0), .removePage 0]

/-- The clashing edits are given, and they leave one page with two ids. -/
theorem session_keeps_ids_apart_clashing :
    (∀ e ∈ clashingEdits, e.IsGiven) ∧
      (clashingEdits.foldl tryEdit (new (.text newName))).pages.map Page.fieldIds =
        [["b", "c"]] ∧
      ∀ page ∈ (clashingEdits.foldl tryEdit (new (.text newName))).pages,
        page.fieldIds.Nodup ∧ ∀ id ∈ page.fieldIds, id ≠ "" := by
  have htext {id : String} (hid : id ≠ "") : (textField id).IsDefined := ⟨hid, .absent _⟩
  have hgiven : ∀ e ∈ clashingEdits, e.IsGiven := by
    simp only [clashingEdits, List.forall_mem_cons, Edit.IsGiven]
    exact ⟨htext (by decide), htext (by decide), by decide, by decide, htext (by decide), trivial,
      List.forall_mem_nil _⟩
  exact ⟨hgiven, rfl, (session_keeps_ids_apart (.text newName) hgiven).2⟩

end Form

end PagedForm
