import PagedForm.Example
import PagedForm.Proofs.Diagnosis.CleanReport
import PagedForm.Proofs.Navigation.Leaving

/-!
# Pages as targets

A routing leads to a page by its name. In a form whose report is clean each name belongs to one page,
and so the name of a page leads to the page, but for the three words: a page may be called by one of
them, and the word then keeps its own meaning. `Form.IsWellLinked.destination?_name` says when the
word leads to the page nevertheless.
-/

namespace PagedForm

namespace Form

variable {form : Form} {place : Nat} {page : Page}

/-- A name within a well linked form is found at the page that has it. -/
theorem IsWellLinked.pageIndex?_name (hform : form.IsWellLinked)
    (hpage : form.pages[place]? = some page) : form.pageIndex? page.name = some place := by
  obtain ⟨hplace, hget⟩ := List.getElem?_eq_some_iff.1 hpage
  obtain ⟨s, hname, _⟩ := hform.names page (List.mem_of_getElem? hpage)
  refine List.findIdx?_eq_some_iff_getElem.2 ⟨hplace, ?_, ?_⟩
  · rw [hget, hname]
    exact Value.same_text_iff.2 rfl
  · -- An earlier page with the name would be a second one.
    intro earlier hearlier hsame
    have hbound : earlier < form.pages.length := hearlier.trans hplace
    rw [hname, Value.same_text_iff, ← hname, ← hget] at hsame
    have hnames : (form.pages.map Page.name)[earlier]? = (form.pages.map Page.name)[place]? := by
      rw [List.getElem?_map, List.getElem?_map, List.getElem?_eq_getElem hbound,
        List.getElem?_eq_getElem hplace, Option.map_some, Option.map_some, hsame]
    rw [← List.length_map (f := Page.name)] at hbound
    exact hearlier.ne ((List.getElem?_inj hbound hform.distinct).1 hnames)

/-- The name of a page within a well linked form leads to the page, unless it is one of the three
words; such a name leads to the page exactly when the word does. -/
theorem IsWellLinked.destination?_name (hform : form.IsWellLinked)
    (hpage : form.pages[place]? = some page) (source : Nat) :
    form.destination? source page.name = some place ↔
      Target.isWord page.name = false ∨
      page.name = .text Target.next ∧ place = source + 1 ∨
      page.name = .text Target.last ∧ place + 1 = form.pages.length := by
  obtain ⟨hplace, _⟩ := List.getElem?_eq_some_iff.1 hpage
  cases hword : Target.isWord page.name with
  | false =>
      rw [form.destination?_of_not_isWord source hword, hform.pageIndex?_name hpage]
      simp
  | true =>
      simp only [Target.isWord, Bool.or_eq_true, Value.isText, Value.same_text_iff] at hword
      rcases hword with (hnext | hfinish) | hlast
      · rw [hnext]
        simp [destination?, Value.isText, Target.next, Target.last]
        omega
      · rw [hfinish]
        simp [destination?, Value.isText, Target.next, Target.last, Target.finish]
      · rw [hlast]
        simp [destination?, Value.isText, Target.next, Target.last, Target.finish]
        omega

/-- Within a well linked form, leaving a page to the name of another leads to the other page, unless
the name is one of the three words and the word leads elsewhere. -/
theorem IsWellLinked.leave_to_name (hform : form.IsWellLinked) {index : Nat} {current : Page}
    (hcurrent : form.pages[index]? = some current) {answers : Answers}
    (hfree : ∀ driver, ¬ current.WaitsFor answers driver)
    (hpage : form.pages[place]? = some page)
    (hselect : Routing.select current.routing current.fields answers = .ok page.name) :
    ∃ outcome, current.leave answers form.pages index = .ok outcome ∧
      (outcome.pageIndex? = some (place : Int) ↔
        Target.isWord page.name = false ∨
        page.name = .text Target.next ∧ place = index + 1 ∨
        page.name = .text Target.last ∧ place + 1 = form.pages.length) := by
  obtain ⟨hindex, _⟩ := List.getElem?_eq_some_iff.1 hcurrent
  have hcovers := form.covers_edgeTo hindex page.name ""
  refine ⟨_, Page.leave_of_not_waitsFor hfree hselect form.pages index, ?_⟩
  rw [hcovers.pageIndex?_eq_some_iff, edgeTo, hform.destination?_name hpage]

end Form

namespace Report

/-- Let the report on a form be clean, let the driver of a page be answered, and let the routing of
the page select the name of another page. Leaving the page then leads to the other page, unless its
name is one of the three words, which a page may have as well. As a target the word keeps its own
meaning, so that it leads to the page only when this is the next or the last page, as the word
says. -/
theorem named_page_entered_iff {form : Form} {settings : Settings} {report : Report}
    (h : ofForm form settings = .ok report) (hclean : report.isClean = true) {index : Nat}
    {current : Page} (hcurrent : form.pages[index]? = some current) {driver : Field}
    (hdriver : Routing.driver? current.routing current.fields = some driver) {answers : Answers}
    (hanswered : isMissing (answers.get driver.id) = false) {place : Nat} {page : Page}
    (hpage : form.pages[place]? = some page)
    (hselect : Routing.select current.routing current.fields answers = .ok page.name) :
    ∃ outcome, current.leave answers form.pages index = .ok outcome ∧
      (outcome.pageIndex? = some (place : Int) ↔
        Target.isWord page.name = false ∨
        page.name = .text Target.next ∧ place = index + 1 ∨
        page.name = .text Target.last ∧ place + 1 = form.pages.length) := by
  have hpages : form.pages ≠ [] := List.ne_nil_of_mem (List.mem_of_getElem? hpage)
  have hform := isWellLinked_of_isClean hpages h hclean
  exact hform.leave_to_name hcurrent (Page.not_waitsFor hdriver hanswered) hpage hselect

/-- The report on the example form is clean, and a site that is not accessible leads from the first
page to the page for a failed visit. -/
theorem named_page_entered_iff_access :
    ∃ report driver, ofForm Example.form Settings.standard = .ok report ∧
      report.isClean = true ∧
      Example.form.pages[0]? = some Example.jobDetails ∧
      Routing.driver? Example.jobDetails.routing Example.jobDetails.fields = some driver ∧
      isMissing (Answers.get [("siteAccess", .text "No")] driver.id) = false ∧
      Example.form.pages[1]? = some Example.accessProblem ∧
      Routing.select Example.jobDetails.routing Example.jobDetails.fields
          [("siteAccess", .text "No")] = .ok Example.accessProblem.name ∧
      ∃ outcome, Example.jobDetails.leave [("siteAccess", .text "No")] Example.form.pages (0 : Nat) =
          .ok outcome ∧
        outcome.pageIndex? = some ((1 : Nat) : Int) := by
  obtain ⟨report, hreport, hclean⟩ : ∃ report,
      ofForm Example.form Settings.standard = .ok report ∧ report.isClean = true :=
    Result.exists_eq_ok_of_any (by decide +kernel)
  have hdriver : Routing.driver? Example.jobDetails.routing Example.jobDetails.fields =
      some Example.jobDetails.fields[3] := rfl
  have hselect : Routing.select Example.jobDetails.routing Example.jobDetails.fields
      [("siteAccess", .text "No")] = .ok Example.accessProblem.name := rfl
  have hcurrent : Example.form.pages[0]? = some Example.jobDetails := rfl
  have hpage : Example.form.pages[1]? = some Example.accessProblem := rfl
  obtain ⟨outcome, hleave, hentered⟩ :=
    named_page_entered_iff hreport hclean hcurrent hdriver rfl hpage hselect
  exact ⟨report, _, hreport, hclean, hcurrent, hdriver, rfl, hpage, hselect, outcome, hleave,
    hentered.2 (.inl rfl)⟩

/-- A form of two pages, of which the second is called by the word that ends the form. -/
def endingName : Form :=
  { Example.form with
    pages :=
      [Example.page 1 "Start" "" "submitStart"
        [Example.field "q" "Question"
          (Example.input (.radio (Example.options ["Yes", "No"])) true)]
        (Example.route "q" "Yes" Target.finish Target.next),
       Example.page 2 Target.finish "" "submitEnd"
        [Example.field "n" "Note" (Example.input (.text .null) false)] none] }

/-- The report on the form is clean and the first page is left to the name of the second, but the
form ends without entering the second page. -/
theorem ending_name_not_entered :
    ∃ report start page driver, ofForm endingName Settings.standard = .ok report ∧
      report.isClean = true ∧
      endingName.pages[0]? = some start ∧
      Routing.driver? start.routing start.fields = some driver ∧
      isMissing (Answers.get [("q", .text "Yes")] driver.id) = false ∧
      endingName.pages[1]? = some page ∧
      Routing.select start.routing start.fields [("q", .text "Yes")] = .ok page.name ∧
      start.leave [("q", .text "Yes")] endingName.pages (0 : Nat) = .ok .ended ∧
      Outcome.ended.pageIndex? ≠ some ((1 : Nat) : Int) := by
  obtain ⟨report, hreport, hclean⟩ : ∃ report,
      ofForm endingName Settings.standard = .ok report ∧ report.isClean = true :=
    Result.exists_eq_ok_of_any (by decide +kernel)
  exact ⟨report, _, _, _, hreport, hclean, rfl, rfl, rfl, rfl, rfl, rfl, nofun⟩

end Report

end PagedForm
