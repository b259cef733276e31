import PagedForm.Form.Basic
import PagedForm.Upload

/-!
# Picking a page

A page is picked by its name or, when no page has the name, by its number counted from zero.
Without a selector the first page is picked.
-/

namespace PagedForm.Form

/-- The page with a number that a text of digits spells. -/
def pageNumbered? (form : Form) (selector : String) : Result (Option Page) :=
  if Text.isDigits selector then
    (Value.text selector).wholeNumber.map fun number => form.pages[number.toNat]?
  else .ok none

/-- The page that a selector picks. -/
def select (form : Form) (selector : Option String) : Result Page :=
  match selector with
  | none =>
      match form.pages with
      | page :: _ => .ok page
      | [] => .error (.selection .noPages)
  | some s =>
      match form.page? (.text s) with
      | some page => .ok page
      | none => do
          match ← form.pageNumbered? s with
          | some page => pure page
          | none => throw (.selection (.unknown s))

/-- A page that is picked by its number is a page of the form. -/
theorem mem_of_pageNumbered? {form : Form} {selector : String} {page : Page}
    (h : form.pageNumbered? selector = .ok (some page)) : page ∈ form.pages := by
  unfold pageNumbered? at h
  split at h
  · obtain ⟨number, _, hnumber⟩ := Result.map_eq_ok.1 h
    exact List.mem_of_getElem? hnumber
  · cases h

/-- A page that is picked is a page of the form. -/
theorem mem_of_select {form : Form} {selector : Option String} {page : Page}
    (h : form.select selector = .ok page) : page ∈ form.pages := by
  unfold select at h
  split at h
  · split at h
    · next hpages =>
        cases h
        simp [hpages]
    · cases h
  · split at h
    · next hfound =>
        cases h
        exact List.mem_of_find?_eq_some hfound
    · obtain ⟨found, hfound, h⟩ := Result.bind_eq_ok.1 h
      cases found with
      | none => cases h
      | some numbered =>
          cases h
          exact mem_of_pageNumbered? hfound

end PagedForm.Form
