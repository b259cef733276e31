import Mathlib.Data.List.Find
import PagedForm.Example
import PagedForm.Navigation.Preview
import PagedForm.Proofs.Form.DistinctIds
import PagedForm.Proofs.Routing.Selection

/-!
# The order of the fields does not decide anything

Fields are looked up by their ids, so on a page whose ids are distinct their order is a matter of
presentation. A page whose fields were reordered shows the same fields, asks for the same answers,
in another order, and leads to the same pages. Moving a field reorders its page and changes no
other, and so does any number of moves.
-/

namespace PagedForm

/-- A page with the fields of another, in some order, and otherwise like it. -/
structure Page.IsReordering (reordered page : Page) : Prop where
  fields : reordered.fields.Perm page.fields
  others : reordered = { page with fields := reordered.fields }

/-- Each page of the form stands in the place of a page with the same name, and has its fields in
some order. -/
structure Form.IsReordering (reordered form : Form) : Prop where
  names : reordered.pages.map Page.name = form.pages.map Page.name
  page : ∀ {place : Nat} {page : Page}, form.pages[place]? = some page →
    ∃ moved : Page, reordered.pages[place]? = some moved ∧ moved.IsReordering page

namespace Page

variable {page reordered other : Page}

/-- A page is a reordering of itself. -/
theorem IsReordering.refl (page : Page) : page.IsReordering page :=
  ⟨.refl _, rfl⟩

/-- A page that is reordered twice is reordered. -/
theorem IsReordering.trans (h : other.IsReordering reordered)
    (hfirst : reordered.IsReordering page) : other.IsReordering page := by
  refine ⟨h.fields.trans hfirst.fields, ?_⟩
  rw [h.others, hfirst.others]

/-- A page on which a field was moved is a reordering. -/
theorem isReordering_moveField {source target : Int}
    (h : page.moveField source target = .ok other) : other.IsReordering page := by
  refine ⟨perm_moveField h, ?_⟩
  obtain ⟨_, _, _, rfl⟩ := moveField_eq_ok h
  rfl

/-! ## What is looked up by ids -/

section Behaviour

variable (h : reordered.IsReordering page) (hdistinct : page.fieldIds.Nodup)

include h hdistinct

/-- The same field is found by an id. -/
theorem field?_reordered (id : Value) : reordered.field? id = page.field? id := by
  unfold field? fieldById?
  split
  · next s =>
      refine List.find?_eq_find?_of_perm h.fields ?_
      -- Two fields of the page with this id are the same field.
      rintro first ⟨hfirst, hid⟩ second ⟨hsecond, hsame⟩
      refine List.inj_on_of_nodup_map hdistinct (h.fields.subset hfirst)
        (h.fields.subset hsecond) ?_
      exact (of_decide_eq_true hid).trans (of_decide_eq_true hsame).symm
  · rfl

/-- The same fields are visible. -/
theorem isVisible_reordered (answers : Answers) (field : Field) :
    reordered.isVisible answers field = page.isVisible answers field := by
  unfold isVisible
  rw [field?_reordered h hdistinct]

/-- The same answers have to be given, in another order. -/
theorem perm_problems (answers : Answers) :
    (reordered.problems answers).Perm (page.problems answers) := by
  have hlacks : reordered.lacksAnswer answers = page.lacksAnswer answers := by
    funext field
    unfold lacksAnswer
    rw [isVisible_reordered h hdistinct]
  unfold problems
  rw [hlacks]
  exact (h.fields.filter _).map requiredMessage

/-- The routing has the same driver. -/
theorem active?_reordered :
    Routing.active? reordered.routing reordered.fields =
      Routing.active? page.routing page.fields := by
  have hrouting : reordered.routing = page.routing := by rw [h.others]
  rw [hrouting]
  refine Option.bind_congr fun routing _ => ?_
  rw [Routing.driverAmong?_eq, Routing.driverAmong?_eq, field?_reordered h hdistinct]

/-- The routing selects the same target. -/
theorem select_reordered (answers : Answers) :
    Routing.select reordered.routing reordered.fields answers =
      Routing.select page.routing page.fields answers := by
  unfold Routing.select Routing.decision
  rw [active?_reordered h hdistinct]

/-- The page is left to the same place, among pages with the same names. -/
theorem leave_reordered {pages others : List Page}
    (hnames : others.map Page.name = pages.map Page.name) (answers : Answers) (current : Int) :
    reordered.leave answers others current = page.leave answers pages current := by
  unfold leave
  rw [hnames, select_reordered h hdistinct, Routing.driver?, Routing.driver?,
    active?_reordered h hdistinct]

/-- The preview is the same. -/
theorem preview_reordered (answers : Answers) :
    reordered.preview answers = page.preview answers := by
  have hrouting : reordered.routing = page.routing := by rw [h.others]
  unfold preview
  rw [select_reordered h hdistinct, hrouting]
  simp only [field?_reordered h hdistinct]

end Behaviour

end Page

/-- An edit that moves a field. -/
def Edit.IsMove : Edit → Prop
  | .moveField _ _ _ => True
  | _ => False

namespace Form

variable {form reordered other : Form}

/-! ## Moves -/

/-- A form is a reordering of itself. -/
theorem IsReordering.refl (form : Form) : form.IsReordering form :=
  ⟨rfl, fun {_ page} hpage => ⟨page, hpage, .refl page⟩⟩

/-- A form that is reordered twice is reordered. -/
theorem IsReordering.trans (h : other.IsReordering reordered)
    (hfirst : reordered.IsReordering form) : other.IsReordering form := by
  refine ⟨h.names.trans hfirst.names, fun hpage => ?_⟩
  obtain ⟨moved, hmoved, hreordered⟩ := hfirst.page hpage
  obtain ⟨last, hlast, hagain⟩ := h.page hmoved
  exact ⟨last, hlast, hagain.trans hreordered⟩

/-- A form with a reordered page in the place of the page is a reordering. -/
theorem isReordering_set {place : Nat} {page moved : Page} (hpage : form.pages[place]? = some page)
    (hmoved : moved.IsReordering page) :
    IsReordering { form with pages := form.pages.set place moved } form := by
  obtain ⟨hplace, hget⟩ := List.getElem?_eq_some_iff.1 hpage
  constructor
  · have hname : moved.name = form.pages[place].name := by
      rw [hget, hmoved.others]
    dsimp only
    rw [List.map_set, hname, ← List.map_set, List.set_getElem_self]
  · intro index before hbefore
    by_cases hindex : place = index
    · subst hindex
      obtain rfl : page = before := Option.some.inj (hpage.symm.trans hbefore)
      exact ⟨moved, List.getElem?_set_self hplace, hmoved⟩
    · exact ⟨before, (List.getElem?_set_ne hindex).trans hbefore, .refl before⟩

/-- An edit that moves a field reorders the form. -/
theorem isReordering_edit {e : Edit} (he : e.IsMove) (h : form.edit e = .ok other) :
    other.IsReordering form := by
  cases e with
  | moveField index source target =>
      rw [edit_eq_onPage rfl] at h
      obtain ⟨place, page, moved, hpage, hmoved, rfl⟩ := onPage_eq_ok h
      exact isReordering_set (pageAt_eq_ok hpage) (Page.isReordering_moveField hmoved)
  | addPage | removePage | updatePage | setRouting | addField | updateField | removeField =>
      cases he

/-- A session of moves reorders the form. -/
theorem isReordering_session {edits : List Edit} (hedits : ∀ e ∈ edits, e.IsMove) :
    (edits.foldl tryEdit form).IsReordering form :=
  -- Each move reorders the form that the moves before it have left.
  session_keeps (fun hbefore he h => (isReordering_edit he h).trans hbefore) (.refl form) hedits

/-- After any session of moves of fields, a page with distinct ids has its fields in some order.
Whatever the answers, each field is visible when it was before, the messages about missing answers
are the same in some order, the routing selects the same target, the page is left with the same
outcome, and the preview is the same. -/
theorem moved_fields_behave_alike {edits : List Edit} (hedits : ∀ e ∈ edits, e.IsMove)
    {index : Nat} {page : Page} (hpage : form.pages[index]? = some page)
    (hdistinct : page.fieldIds.Nodup) :
    ∃ moved, (edits.foldl tryEdit form).pages[index]? = some moved ∧
      moved.fields.Perm page.fields ∧
      ∀ answers,
        (∀ field, moved.isVisible answers field = page.isVisible answers field) ∧
        (moved.problems answers).Perm (page.problems answers) ∧
        Routing.select moved.routing moved.fields answers =
          Routing.select page.routing page.fields answers ∧
        (∀ current, moved.leave answers (edits.foldl tryEdit form).pages current =
          page.leave answers form.pages current) ∧
        moved.preview answers = page.preview answers := by
  have hform : (edits.foldl tryEdit form).IsReordering form := isReordering_session hedits
  obtain ⟨moved, hmoved, h⟩ := hform.page hpage
  exact ⟨moved, hmoved, h.fields, fun answers =>
    ⟨Page.isVisible_reordered h hdistinct answers, Page.perm_problems h hdistinct answers,
      Page.select_reordered h hdistinct answers,
      Page.leave_reordered h hdistinct hform.names answers,
      Page.preview_reordered h hdistinct answers⟩⟩

/-- Moves of fields of the first two pages of the example form. The second cannot be made. -/
def shuffle : List Edit :=
  [.moveField 0 4 0, .moveField 0 0 9, .moveField 0 3 1, .moveField 1 1 0]

/-- The first page of the example form asks for its last field first. What a worker without access
to the site still has to answer comes in another order, and leads to the same page. -/
theorem moved_fields_behave_alike_access :
    (∀ e ∈ shuffle, e.IsMove) ∧ Example.form.pages[0]? = some Example.jobDetails ∧
      Example.jobDetails.fieldIds.Nodup ∧
      ∃ moved, (shuffle.foldl tryEdit Example.form).pages[0]? = some moved ∧
        moved.fieldIds =
          ["accessNotes", "technicianName", "jobHeading", "scopeOfWork", "siteAccess"] ∧
        (moved.problems [("siteAccess", .text "No")]).Perm
          ["\"Technician\" is required", "\"Why not?\" is required"] ∧
        Routing.select moved.routing moved.fields [("siteAccess", .text "No")] =
          .ok (.text "Access Problem") := by
  have hmoves : ∀ e ∈ shuffle, e.IsMove := by simp [shuffle, Edit.IsMove]
  have hdistinct : Example.jobDetails.fieldIds.Nodup := by decide
  have hpage : Example.form.pages[0]? = some Example.jobDetails := rfl
  obtain ⟨moved, hmoved, _, hbehaves⟩ := moved_fields_behave_alike hmoves hpage hdistinct
  obtain ⟨_, hproblems, hselect, _, _⟩ := hbehaves [("siteAccess", .text "No")]
  have hids : (shuffle.foldl tryEdit Example.form).pages[0]?.map Page.fieldIds =
      some ["accessNotes", "technicianName", "jobHeading", "scopeOfWork", "siteAccess"] := rfl
  rw [hmoved] at hids
  exact ⟨hmoves, hpage, hdistinct, moved, hmoved, Option.some.inj hids, hproblems,
    hselect.trans rfl⟩

end Form

end PagedForm
