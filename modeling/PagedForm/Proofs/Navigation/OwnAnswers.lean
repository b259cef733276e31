import PagedForm.Example
import PagedForm.Proofs.Navigation.Leaving

/-!
# Only the answers to a page count

A page is shown, checked and left by the answers to its own fields. A decision reads the answers of
the fields that are named in it, which `Decision.reads` collects, and for the routing of a page
these are fields of the page: `Page.own_answers_decide` says that what the records hold under other
keys, also under those that a dependency or a routing without a field names, makes no difference.
-/

namespace PagedForm

/-! ## What a decision reads -/

/-- Two records hold the same answers, or none, under these ids. -/
def Answers.AgreeOn (ids : List String) (first second : Answers) : Prop :=
  ∀ id ∈ ids, Table.find? id first = Table.find? id second

/-- The fields whose answers a decision may read. -/
def Decision.reads : Decision → List String
  | .literal _ => []
  | .test t => [t.field]
  | .choose condition yes no => condition.reads ++ yes.reads ++ no.reads
  | .answer field => [field]
  | .foreign => []

section

variable {ids : List String} {first second : Answers}

/-- Records that agree on some ids agree on fewer. -/
theorem Answers.AgreeOn.mono (h : first.AgreeOn ids second) {fewer : List String}
    (hfewer : fewer ⊆ ids) : first.AgreeOn fewer second :=
  fun id hid => h id (hfewer hid)

/-- Records that agree on an id give the same answer for it. -/
theorem Answers.AgreeOn.get (h : first.AgreeOn ids second) {id : String} (hid : id ∈ ids) :
    first.get id = second.get id := by
  rw [Answers.get, Answers.get, h id hid]

/-- A test comes out the same for records that agree on its field. -/
theorem Test.holds_congr {test : Test} (h : first.AgreeOn [test.field] second) :
    test.holds first = test.holds second := by
  rw [Test.holds, Test.holds, h.get (List.mem_singleton_self test.field)]

/-- A decision picks the same value for records that agree on what it reads. -/
theorem Decision.eval_congr {decision : Decision} (h : first.AgreeOn decision.reads second) :
    decision.eval first = decision.eval second := by
  induction decision with
  | literal | foreign => rfl
  | test t => rw [eval, eval, Test.holds_congr h]
  | answer field => rw [eval, eval, h.get (List.mem_singleton_self field)]
  | choose condition yes no _ ihyes ihno =>
      have hyes := ihyes (h.mono (by simp [reads]))
      have hno := ihno (h.mono (by simp [reads]))
      cases condition with
      | test t =>
          have hfield : first.AgreeOn [t.field] second := h.mono (by simp [reads])
          rw [eval, eval, Test.holds_congr hfield, hyes, hno]
      | literal | choose | answer | foreign => rfl

end

namespace Routing

/-- A chain reads the answer of its field only. -/
theorem reads_chain (comparator : Comparator) (field : String) (fallback : Value)
    (branches : List Branch) : (chain comparator field fallback branches).reads ⊆ [field] := by
  induction branches with
  | nil => exact List.nil_subset _
  | cons branch rest ih => simpa [chain, Decision.reads] using ih

/-- The decision of a routing reads answers of the fields among which it is made. -/
theorem reads_decision (routing : Option Routing) (fields : List Field) :
    (decision routing fields).reads ⊆ fields.map Field.id := by
  unfold decision
  split
  · next r driver hactive =>
      have hdriver := (active?_eq_some hactive).2.1
      refine List.Subset.trans (reads_chain _ _ _ _) ?_
      exact List.cons_subset.2 ⟨List.mem_map_of_mem hdriver, List.nil_subset _⟩
  · exact List.nil_subset _

/-- The driver of a routing is one of the fields among which it is looked for. -/
theorem mem_of_driver? {routing : Option Routing} {fields : List Field} {driver : Field}
    (h : driver? routing fields = some driver) : driver ∈ fields := by
  obtain ⟨found, hfound, rfl⟩ := Option.map_eq_some_iff.1 h
  exact (active?_eq_some hfound).2.1

end Routing

namespace Page

variable {page : Page} {first second : Answers}

/-- Each field is visible for both records or for none. -/
theorem isVisible_congr (h : first.AgreeOn page.fieldIds second) (field : Field) :
    page.isVisible first field = page.isVisible second field := by
  unfold isVisible
  split
  · rfl
  · split
    · rfl
    · next driver hdriver =>
        have hid : driver.id ∈ page.fieldIds := List.mem_map_of_mem (field?_eq_some hdriver).1
        rw [h.get hid]

/-- The same answers are missing. -/
theorem problems_congr (h : first.AgreeOn page.fieldIds second) :
    page.problems first = page.problems second := by
  have hlacks : ∀ field ∈ page.fields,
      page.lacksAnswer first field = page.lacksAnswer second field := by
    intro field hfield
    have hid : field.id ∈ page.fieldIds := List.mem_map_of_mem hfield
    rw [lacksAnswer, lacksAnswer, isVisible_congr h, h.get hid]
  rw [problems, problems, List.filter_congr hlacks]

/-- The same target is selected. -/
theorem select_congr (h : first.AgreeOn page.fieldIds second) :
    Routing.select page.routing page.fields first =
      Routing.select page.routing page.fields second :=
  Decision.eval_congr (h.mono (Routing.reads_decision page.routing page.fields))

/-- The page is left to the same place. -/
theorem leave_congr (h : first.AgreeOn page.fieldIds second) (pages : List Page)
    (current : Int) : page.leave first pages current = page.leave second pages current := by
  unfold leave
  rw [select_congr h]
  split
  · rfl
  · next driver hdriver =>
      have hid : driver.id ∈ page.fieldIds :=
        List.mem_map_of_mem (Routing.mem_of_driver? hdriver)
      rw [h.get hid]

/-- For records that agree on the ids of a page's fields, the same fields of the page are visible,
the same answers are missing, the same target is selected, and the page is left to the same place,
among all pages and from every place, whether what is missing is checked or not. -/
theorem own_answers_decide (h : first.AgreeOn page.fieldIds second) :
    page.visibleFields first = page.visibleFields second ∧
      page.problems first = page.problems second ∧
      Routing.select page.routing page.fields first =
        Routing.select page.routing page.fields second ∧
      ∀ (pages : List Page) (current : Int),
        page.leave first pages current = page.leave second pages current ∧
        page.advance first pages current = page.advance second pages current := by
  refine ⟨?_, problems_congr h, select_congr h, fun pages current => ⟨?_, ?_⟩⟩
  · exact List.filter_congr fun field _ => isVisible_congr h field
  · exact leave_congr h pages current
  · rw [advance, advance, problems_congr h, leave_congr h]

/-- A page whose second field depends on a field of another page, as does its routing. -/
def strayPage : Page :=
  Example.page 1 "Notes" "" ""
    [Example.field "notes" "Notes" (Example.input (.text .null) true),
     Example.shownWhen (Example.field "more" "More" (Example.input (.text .null) true))
       "elsewhere" "Yes"]
    (Example.route "elsewhere" "Yes" Target.finish Target.last)

/-- The answer to the page, with an answer to the field that it does not have. -/
def strayAnswers : Answers :=
  [("elsewhere", .text "Yes"), ("notes", .text "none")]

/-- The answer to the field that the page does not have neither shows its second field nor ends
the form: the page is left as without that answer. -/
theorem own_answers_decide_stray :
    strayAnswers.AgreeOn strayPage.fieldIds (Table.erase "elsewhere" strayAnswers) ∧
      Table.find? "elsewhere" strayAnswers = some (.text "Yes") ∧
      strayPage.advance strayAnswers [strayPage, Example.signOff] 0 =
        strayPage.advance (Table.erase "elsewhere" strayAnswers) [strayPage, Example.signOff] 0 := by
  have hagree : strayAnswers.AgreeOn strayPage.fieldIds (Table.erase "elsewhere" strayAnswers) := by
    intro id hid
    have hother : id ≠ "elsewhere" := by
      rintro rfl
      revert hid
      decide
    rw [Table.find?_erase, if_neg hother]
  obtain ⟨_, _, _, hleft⟩ := own_answers_decide hagree
  exact ⟨hagree, rfl, (hleft [strayPage, Example.signOff] 0).2⟩

end Page

end PagedForm
