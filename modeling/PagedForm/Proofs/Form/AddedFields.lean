import Mathlib.Algebra.Ring.Int.Defs
import PagedForm.Example
import PagedForm.Proofs.Field.NewFields
import PagedForm.Proofs.Form.Commuting
import PagedForm.Proofs.Form.DistinctIds
import PagedForm.Proofs.Form.Renaming

/-!
# Adding fields

A field whose id is free can be added at any position, and it stands between the other fields in
their old order. `Page.Denotes` says where: positions count from the front or from the end of the
list, and one that the list does not have means its nearest end. Removing the field undoes this
when its id was free on the page, and a new field always has an id with which it can be
added. Only positions that no list can have, because they take more than 64 bits, are refused.
-/

namespace PagedForm

namespace Page

variable {page : Page} {field : Field} {position : Option Int}

/-! ## Positions -/

/-- The place that a position means in a list of this length: the end when there is none, the place
counted from the front or, when it is negative, from the end, and the nearest end of the list when
the list has no such place. -/
inductive Denotes (length : Nat) : Option Int → Nat → Prop where
  | none : Denotes length none length
  | front {p : Int} {place : Nat} : place ≤ length → p = place → Denotes length (some p) place
  | beyond {p : Int} : length < p → Denotes length (some p) length
  | back {p : Int} {place : Nat} : p < 0 → p + length = place → Denotes length (some p) place
  | before {p : Int} : p + length < 0 → Denotes length (some p) 0

/-- A field is put in the place that the position means. -/
theorem denotes_insertIndex (length : Nat) (position : Option Int) :
    Denotes length position (insertIndex length position) := by
  unfold insertIndex
  split
  · exact .none
  · next p =>
      split
      · next hneg =>
          by_cases hbefore : p + length < 0
          · rw [Int.toNat_of_nonpos (by omega)]
            exact .before hbefore
          · exact .back hneg (by omega)
      · by_cases hbeyond : length < p
        · rw [Nat.min_eq_right (by omega)]
          exact .beyond hbeyond
        · exact .front (by omega) (by omega)

/-- No list has a position that takes more than 64 bits with its sign. -/
theorem isBeyondLists_eq_false {p : Int} :
    isBeyondLists p = false ↔ -(2 ^ 63) ≤ p ∧ p < 2 ^ 63 := by
  have hbound : (twoTo 63 : Int) = 2 ^ 63 := rfl
  rw [isBeyondLists, hbound, Bool.or_eq_false_iff, decide_eq_false_iff_not,
    decide_eq_false_iff_not]
  omega

/-! ## Adding -/

/-- An inserted item stands between the items before and after its place. -/
theorem exists_insertIdx_eq {α : Type} {items : List α} {place : Nat}
    (h : place ≤ items.length) (item : α) :
    ∃ before after, items = before ++ after ∧ before.length = place ∧
      items.insertIdx place item = before ++ item :: after := by
  induction items generalizing place with
  | nil =>
      obtain rfl : place = 0 := Nat.le_zero.1 h
      exact ⟨[], [], rfl, rfl, rfl⟩
  | cons first rest ih =>
      cases place with
      | zero => exact ⟨[], first :: rest, rfl, rfl, rfl⟩
      | succ place =>
          obtain ⟨before, after, hrest, hlength, hinsert⟩ := ih (Nat.le_of_succ_le_succ h)
          refine ⟨first :: before, after, congrArg _ hrest, congrArg _ hlength, ?_⟩
          exact congrArg (List.cons first) hinsert

/-- A field with a free id is added between the fields before and after the place that the position
means. -/
theorem exists_addField (hid : field.id ∉ page.fieldIds)
    (hposition : ∀ p ∈ position, -(2 ^ 63) ≤ p ∧ p < 2 ^ 63) :
    ∃ before after, page.fields = before ++ after ∧
      Denotes page.fields.length position before.length ∧
      page.addField field position = .ok { page with fields := before ++ field :: after } := by
  obtain ⟨before, after, hfields, hlength, hinsert⟩ :=
    exists_insertIdx_eq (insertIndex_le page.fields.length position) field
  refine ⟨before, after, hfields, hlength ▸ denotes_insertIndex _ _, ?_⟩
  have hfree : ¬ (page.fieldById? field.id).isSome = true := by
    simp [fieldById?_eq_none.2 hid]
  have hinside : ¬ position.any isBeyondLists = true := by
    cases position with
    | none => exact Bool.false_ne_true
    | some p => exact Bool.eq_false_iff.1 (isBeyondLists_eq_false.2 (hposition p rfl))
  unfold addField
  rw [if_neg hfree, if_neg hinside, hinsert]

/-! ## Removing what was added -/

/-- A field that does not depend on a removed one stays as it is. -/
theorem release_of_ne {id : String} (h : field.dependsOn ≠ .text id) : release id field = field :=
  if_neg fun hsame => h (Value.same_text_iff.1 hsame)

/-- A page whose routing is not driven by a field is not routed by it. -/
theorem routesBy_eq_false {id : String}
    (h : ∀ routing ∈ page.routing, routing.fieldId ≠ .text id) : page.routesBy id = false := by
  unfold routesBy
  split
  · next routing hrouting =>
      exact Bool.eq_false_iff.2 fun hsame => h routing hrouting (Value.same_text_iff.1 hsame)
  · rfl

/-- Removing a field with an id that is free among the other fields leaves these and the routing as
they are. -/
theorem removeField_between {before after : List Field} (hfields : page.fields = before ++ after)
    (hfree : page.IsFree field.id) :
    ({ page with fields := before ++ field :: after } : Page).removeField field.id = .ok page := by
  have hkept : ((before ++ field :: after).filter fun other => other.id ≠ field.id) =
      page.fields := by
    rw [List.filter_append, List.filter_cons_of_neg (by simp), ← List.filter_append, ← hfields]
    exact List.filter_eq_self.2 fun other hmem => decide_eq_true (hfree.id_ne hmem)
  have hreleased : page.fields.map (release field.id) = page.fields :=
    (List.map_congr_left fun other hmem => release_of_ne (hfree.dependsOn other hmem)).trans
      (List.map_id' _)
  obtain ⟨place, hplace⟩ :
      ∃ place, ({ page with fields := before ++ field :: after } : Page).fieldIndex? field.id =
        some place := by
    refine Option.isSome_iff_exists.1 (List.findIdx?_isSome.trans ?_)
    exact List.any_eq_true.2 ⟨field, by simp, decide_eq_true rfl⟩
  unfold removeField
  refine Result.bind_eq_ok.2 ⟨place, fieldIndex_eq_ok.2 hplace, congrArg Except.ok ?_⟩
  have hroutes : ({ page with fields := before ++ field :: after } : Page).routesBy field.id =
      false := routesBy_eq_false hfree.routing
  rw [hroutes, hkept, hreleased]
  rfl

end Page

namespace Form

variable {form : Form} {index : Nat} {page changed : Page}

/-- An edit of a page that can be made puts what it makes of the page in its place. -/
theorem edit_of_page {e : Edit} (hindex : e.pageIndex? = some (index : Int))
    (hpage : form.pages[index]? = some page) (hchanged : page.edit e = .ok changed) :
    form.edit e = .ok (form.withPage index changed) := by
  rw [edit_eq_onPage hindex]
  unfold onPage
  rw [pageAt_natCast hpage, Result.ok_bind]
  dsimp only
  rw [hchanged, Result.ok_bind]
  rfl

/-- A page that is put in the place of a page is found there. -/
theorem getElem?_withPage_self (hpage : form.pages[index]? = some page) (changed : Page) :
    (form.withPage index changed).pages[index]? = some changed := by
  obtain ⟨hinside, _⟩ := List.getElem?_eq_some_iff.1 hpage
  exact List.getElem?_set_self hinside

/-- A form is as it was when a page is changed and put back. -/
theorem withPage_withPage_self (hpage : form.pages[index]? = some page) (changed : Page) :
    (form.withPage index changed).withPage index page = form := by
  obtain ⟨hinside, hget⟩ := List.getElem?_eq_some_iff.1 hpage
  unfold withPage
  dsimp only
  rw [List.set_set, ← hget, List.set_getElem_self]

/-- A field with an id that is free on the page can be added at every position that a list can have.
It stands in the place that the position means, between the other fields in their old order, and
when it is removed the form is as it was. -/
theorem added_field_removed (hpage : form.pages[index]? = some page) {field : Field}
    (hfree : page.IsFree field.id) {position : Option Int}
    (hposition : ∀ p ∈ position, -(2 ^ 63) ≤ p ∧ p < 2 ^ 63) :
    ∃ (before after : List Field) (added : Form),
      page.fields = before ++ after ∧
      Page.Denotes page.fields.length position before.length ∧
      form.edit (.addField index field position) = .ok added ∧
      added = form.withPage index { page with fields := before ++ field :: after } ∧
      added.edit (.removeField index (.text field.id)) = .ok form := by
  obtain ⟨before, after, hfields, hplace, hadd⟩ := Page.exists_addField hfree.fieldIds hposition
  refine ⟨before, after, _, hfields, hplace, edit_of_page rfl hpage hadd, rfl, ?_⟩
  have hplaced := getElem?_withPage_self hpage { page with fields := before ++ field :: after }
  have hremove := Page.removeField_between hfields hfree
  rw [edit_of_page (e := .removeField index (.text field.id)) rfl hplaced hremove,
    withPage_withPage_self hpage]

/-- A field that is shown only where the site is accessible. -/
def parkingField : Field :=
  Example.shownWhen (Example.field "parking" "Parking" (Example.input (.text .null) false))
    "siteAccess" "Yes"

/-- No field of the first page of the example form has the id of the field, and nothing on the page
refers to it. -/
theorem isFree_parking : Example.jobDetails.IsFree parkingField.id where
  fieldIds := by decide
  dependsOn := by
    simp [Example.jobDetails, Example.page, Example.field, Example.shownWhen, parkingField]
  routing := by
    simp [Example.jobDetails, Example.page, Example.route, parkingField, Example.shownWhen,
      Example.field]

/-- The field is added to the first page of the example form before the last of its fields, and
removed again. -/
theorem added_field_removed_parking :
    Example.form.pages[0]? = some Example.jobDetails ∧
      Example.jobDetails.IsFree parkingField.id ∧
      (∀ p ∈ some (-1 : Int), -(2 ^ 63) ≤ p ∧ p < 2 ^ 63) ∧
      ∃ added, Example.form.edit (.addField 0 parkingField (some (-1))) = .ok added ∧
        (added.pages.take 1).map Page.fieldIds =
          [["jobHeading", "scopeOfWork", "technicianName", "siteAccess", "parking",
            "accessNotes"]] ∧
        added.edit (.removeField 0 (.text "parking")) = .ok Example.form := by
  have hpage : Example.form.pages[0]? = some Example.jobDetails := rfl
  have hposition : ∀ p ∈ some (-1 : Int), -(2 ^ 63) ≤ p ∧ p < 2 ^ 63 := by simp
  obtain ⟨_, _, added, _, _, hadded, _, hback⟩ :=
    added_field_removed hpage isFree_parking hposition
  refine ⟨hpage, isFree_parking, hposition, added, hadded, ?_, hback⟩
  cases hadded
  rfl

/-- At a position that takes more than 64 bits the field is not added, though its id is free on the
page. -/
theorem not_added_beyond_lists :
    Example.form.pages[0]? = some Example.jobDetails ∧
      Example.jobDetails.IsFree parkingField.id ∧
      Example.form.edit (.addField 0 parkingField (some (2 ^ 63))) =
        .error (.value .overflow) :=
  ⟨rfl, isFree_parking, rfl⟩

/-! ## New fields -/

/-- The id of a new field is usable, and so is the field. The id is not empty, has letters and
digits of ASCII only, and is not taken. It is the one that the title and the kind suggest or, when
this is taken, the id with the number where counting up from two ends, which is the least that
makes it free. The attributes of a new field define it, and with the ids of a page as the taken ones
it can be added to the page at every position that a list can have, between the other fields in
their old order. -/
theorem new_fields_usable (title : String) (kind : FieldKind) (taken : List String) :
    FieldId.IsAlphanumeric (FieldId.fresh title kind taken) ∧
      FieldId.fresh title kind taken ∉ taken ∧
      (FieldId.fresh title kind taken = FieldId.base title kind ∨
        FieldId.base title kind ∈ taken ∧ ∃ n,
          FieldId.fresh title kind taken = FieldId.numbered (FieldId.base title kind) n ∧
          CountsTo (fun n => taken.contains (FieldId.numbered (FieldId.base title kind) n)) 2 n ∧
          IsLeast {n | 2 ≤ n ∧ FieldId.numbered (FieldId.base title kind) n ∉ taken} n) ∧
      ∀ (form : Form) (index : Nat) (page : Page), form.pages[index]? = some page →
        ∀ position : Option Int, (∀ p ∈ position, -(2 ^ 63) ≤ p ∧ p < 2 ^ 63) →
        Field.define kind (Field.newAttributes kind page.fieldIds) =
            .ok (Field.new kind page.fieldIds) ∧
          ∃ before after, page.fields = before ++ after ∧
            form.edit (.addField index (Field.new kind page.fieldIds) position) =
              .ok (form.withPage index
                { page with fields := before ++ Field.new kind page.fieldIds :: after }) := by
  refine ⟨FieldId.isAlphanumeric_fresh title kind taken, FieldId.free_not_mem _ _, ?_, ?_⟩
  · rcases FieldId.free_cases (FieldId.base title kind) taken with
      ⟨_, heq⟩ | ⟨htaken, n, hcounts, heq⟩
    · exact .inl heq
    · exact .inr ⟨htaken, n, heq, hcounts, by simpa using hcounts.isLeast⟩
  · intro form index page hpage position hposition
    have hid : (Field.new kind page.fieldIds).id ∉ page.fieldIds :=
      FieldId.free_not_mem _ page.fieldIds
    obtain ⟨before, after, hfields, _, hadd⟩ := Page.exists_addField hid hposition
    exact ⟨Field.define_newAttributes kind page.fieldIds, before, after, hfields,
      edit_of_page rfl hpage hadd⟩

/-- Two fields named by the title "Name" make the third "name3", and a new choice stands first on
the first page of the example form when its position is before all places. -/
theorem new_fields_usable_name :
    FieldId.fresh "Name" .text ["name", "name2"] = "name3" ∧
      FieldId.IsAlphanumeric "name3" ∧
      Example.form.pages[0]? = some Example.jobDetails ∧
      (∀ p ∈ some (-100 : Int), -(2 ^ 63) ≤ p ∧ p < 2 ^ 63) ∧
      ∃ added,
        Example.form.edit
          (.addField 0 (Field.new .radio Example.jobDetails.fieldIds) (some (-100))) = .ok added ∧
        (added.pages.take 1).map Page.fieldIds =
          [["chooseOption", "jobHeading", "scopeOfWork", "technicianName", "siteAccess",
            "accessNotes"]] := by
  have hthird : FieldId.fresh "Name" .text ["name", "name2"] = "name3" := by decide
  have hpage : Example.form.pages[0]? = some Example.jobDetails := rfl
  have hposition : ∀ p ∈ some (-100 : Int), -(2 ^ 63) ≤ p ∧ p < 2 ^ 63 := by simp
  have hname := (new_fields_usable "Name" .text ["name", "name2"]).1
  obtain ⟨_, _, _, hadd⟩ := new_fields_usable "Name" .radio []
  obtain ⟨_, before, after, _, hadded⟩ :=
    hadd Example.form 0 Example.jobDetails hpage (some (-100)) hposition
  have hids : (Example.form.edit (.addField 0 (Field.new .radio Example.jobDetails.fieldIds)
      (some (-100)))).map (fun added => (added.pages.take 1).map Page.fieldIds) =
        .ok [["chooseOption", "jobHeading", "scopeOfWork", "technicianName", "siteAccess",
          "accessNotes"]] := rfl
  rw [Int.natCast_zero] at hadded
  rw [hadded] at hids
  exact ⟨hthird, hthird ▸ hname, hpage, hposition, _, hadded, Except.ok.inj hids⟩

/-- A new field is not added at a position that takes more than 64 bits. -/
theorem new_field_not_added_beyond_lists :
    Example.form.pages[0]? = some Example.jobDetails ∧
      Example.form.edit
          (.addField 0 (Field.new .text Example.jobDetails.fieldIds) (some (2 ^ 63))) =
        .error (.value .overflow) :=
  ⟨rfl, rfl⟩

end Form

end PagedForm
