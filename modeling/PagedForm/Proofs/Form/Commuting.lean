import PagedForm.Example
import PagedForm.Proofs.Form.Editing

/-!
# Edits of different pages commute

An edit of a page looks at that page only and changes nothing else. So it has the same effect on a
form in which another page was changed before, down to the fault when it cannot be applied.
`Form.edit_withPage` says this once for all edits, and from it two edits of different pages give the
same form in either order.
-/

namespace PagedForm

namespace Form

/-- The form with a page put in the place of another. -/
def withPage (form : Form) (place : Nat) (page : Page) : Form :=
  { form with pages := form.pages.set place page }

variable {form : Form} {index : Int} {place : Nat}

/-! ## One page at a time -/

/-- A page is found at the index that is its place. -/
theorem pageAt_eq_ok_iff {page : Page} :
    form.pageAt index = .ok (place, page) ↔ index = place ∧ form.pages[place]? = some page := by
  constructor
  · intro h
    refine ⟨?_, pageAt_eq_ok h⟩
    unfold pageAt at h
    split at h
    · cases h
    · split at h
      · cases h
        omega
      · cases h
  · rintro ⟨rfl, hpage⟩
    exact pageAt_natCast hpage

/-- An edit of a page that can be applied puts what it makes of the page in its place. -/
theorem edit_page_eq_ok {e : Edit} {edited : Form} (hindex : e.pageIndex? = some index)
    (h : form.edit e = .ok edited) :
    ∃ (place : Nat) (changed : Page), index = place ∧ edited = form.withPage place changed := by
  rw [edit_eq_onPage hindex] at h
  obtain ⟨place, page, changed, hpage, _, rfl⟩ := onPage_eq_ok h
  exact ⟨place, changed, (pageAt_eq_ok_iff.1 hpage).1, rfl⟩

/-- Every other page stays in its place. -/
theorem getElem?_withPage {other : Nat} (h : other ≠ place) (page : Page) :
    (form.withPage place page).pages[other]? = form.pages[other]? :=
  List.getElem?_set_ne (Ne.symm h)

/-- Pages in different places can be put there in either order. -/
theorem withPage_comm {other : Nat} (h : place ≠ other) (form : Form) (page second : Page) :
    (form.withPage place page).withPage other second =
      (form.withPage other second).withPage place page := by
  unfold withPage
  dsimp only
  rw [List.set_comm _ _ h]

/-- The page that is found at another index stays the same. -/
theorem pageAt_withPage (h : index ≠ place) (page : Page) :
    (form.withPage place page).pageAt index = form.pageAt index := by
  unfold pageAt
  split
  · rfl
  · rw [getElem?_withPage (by omega)]

/-! ## Two pages -/

/-- A change of one page has the same effect, or the same fault, when another page was changed
before. -/
theorem onPage_withPage (h : index ≠ place) (page : Page) (change : Page → Result Page) :
    (form.withPage place page).onPage index change =
      (form.onPage index change).map fun changed => changed.withPage place page := by
  unfold onPage
  rw [pageAt_withPage h]
  cases hfound : form.pageAt index with
  | error => rfl
  | ok found =>
      obtain ⟨other, before⟩ := found
      obtain ⟨rfl, _⟩ := pageAt_eq_ok_iff.1 hfound
      have hplace : place ≠ other := fun hsame => h (congrArg Nat.cast hsame.symm)
      rw [Result.ok_bind, Result.ok_bind]
      dsimp only
      cases change before with
      | error => rfl
      | ok after => exact congrArg Except.ok (withPage_comm hplace form page after)

/-- An edit of one page has the same effect, or the same fault, when another page was changed
before. -/
theorem edit_withPage {e : Edit} (hindex : e.pageIndex? = some index) (h : index ≠ place)
    (page : Page) :
    (form.withPage place page).edit e =
      (form.edit e).map fun edited => edited.withPage place page := by
  rw [edit_eq_onPage hindex, edit_eq_onPage hindex]
  exact onPage_withPage h page _

/-- Two edits of different pages that can each be applied to a form can be applied one after the
other in either order, and give the same form. It has the name, the description, the id and the
times of the form. In the place of each of the two pages is what its edit alone makes of it, and
every other page is as it was. -/
theorem edits_commute {first second : Edit} {i j : Int} {once other : Form}
    (hfirst : first.pageIndex? = some i) (hsecond : second.pageIndex? = some j) (hapart : i ≠ j)
    (honce : form.edit first = .ok once) (hother : form.edit second = .ok other) :
    ∃ both, once.edit second = .ok both ∧ other.edit first = .ok both ∧
      both = { form with pages := both.pages } ∧
      both.pages[i.toNat]? = once.pages[i.toNat]? ∧
      both.pages[j.toNat]? = other.pages[j.toNat]? ∧
      ∀ place : Nat, (place : Int) ≠ i → (place : Int) ≠ j →
        both.pages[place]? = form.pages[place]? := by
  obtain ⟨p, page, rfl, rfl⟩ := edit_page_eq_ok hfirst honce
  obtain ⟨q, changed, rfl, rfl⟩ := edit_page_eq_ok hsecond hother
  have hplaces : p ≠ q := fun hsame => hapart (congrArg Nat.cast hsame)
  -- Both orders end in the form with the two edited pages, which can be put there in either order.
  have hcomm := withPage_comm hplaces form page changed
  refine ⟨(form.withPage p page).withPage q changed, ?_, ?_, rfl, ?_, ?_, fun place hp hq => ?_⟩
  · rw [edit_withPage hsecond (Ne.symm hapart), hother, hcomm]
    rfl
  · rw [edit_withPage hfirst hapart, honce]
    rfl
  · rw [Int.toNat_natCast, getElem?_withPage hplaces]
  · rw [Int.toNat_natCast, hcomm, getElem?_withPage (Ne.symm hplaces)]
  · rw [getElem?_withPage (by omega), getElem?_withPage (by omega)]

/-- The question of the first page of the example form gets a new id. -/
def renameQuestion : Edit :=
  .updateField 0 (.text "siteAccess") [("id", .text "access")]

/-- The question of the second page of the example form is removed. -/
def removeQuestion : Edit :=
  .removeField 1 (.text "rescheduled")

/-- Of the example form, a question is renamed and another is removed. Both show a field and drive
the routing of their page. -/
theorem edits_commute_example :
    renameQuestion.pageIndex? = some 0 ∧ removeQuestion.pageIndex? = some 1 ∧ (0 : Int) ≠ 1 ∧
      ∃ once other both,
        Example.form.edit renameQuestion = .ok once ∧ Example.form.edit removeQuestion = .ok other ∧
        once.edit removeQuestion = .ok both ∧ other.edit renameQuestion = .ok both ∧
        (both.pages.take 2).map Page.fieldIds =
          [["jobHeading", "scopeOfWork", "technicianName", "access", "accessNotes"],
            ["newDate"]] ∧
        both.pages[2]? = some Example.inspection := by
  have hfirst : renameQuestion.pageIndex? = some 0 := rfl
  have hsecond : removeQuestion.pageIndex? = some 1 := rfl
  obtain ⟨once, honce⟩ : ∃ once, Example.form.edit renameQuestion = .ok once := ⟨_, rfl⟩
  obtain ⟨other, hother⟩ : ∃ other, Example.form.edit removeQuestion = .ok other := ⟨_, rfl⟩
  obtain ⟨both, hboth, hsame, _, _, _, hrest⟩ :=
    edits_commute hfirst hsecond (by decide) honce hother
  refine ⟨hfirst, hsecond, by decide, once, other, both, honce, hother, hboth, hsame, ?_,
    hrest 2 (by decide) (by decide)⟩
  cases honce
  cases hboth
  rfl

end Form

end PagedForm
