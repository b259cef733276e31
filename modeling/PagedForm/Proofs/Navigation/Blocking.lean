import PagedForm.Example
import PagedForm.Proofs.Navigation.Leaving

/-!
# What keeps a page from being left

A blocked page says which answers it waits for. `Page.awaited` is the list of the fields that it
asks for: the required ones that lack an answer or, when there are none, the driver of the routing.
Each of them can be answered, except that a driver is asked for even while it is hidden, and even
if it is a heading.
-/

namespace PagedForm

namespace Page

/-- A person can give the missing answer of the field: the field takes an answer and is visible. -/
structure IsOpen (page : Page) (answers : Answers) (field : Field) : Prop where
  mem : field ∈ page.fields
  answerable : field.isAnswerable = true
  visible : page.isVisible answers field = true
  missing : isMissing (answers.get field.id) = true

/-- The fields whose answers keep the page from being left. -/
def awaited (page : Page) (answers : Answers) : List Field :=
  match page.fields.filter (page.lacksAnswer answers) with
  | [] => (Routing.driver? page.routing page.fields).toList.filter fun driver =>
      isMissing (answers.get driver.id)
  | lacking => lacking

/-- Nothing required is missing, and yet the page waits for a driver that cannot be answered: it is
a heading or it is hidden. -/
structure IsStuckOn (page : Page) (answers : Answers) (driver : Field) : Prop where
  complete : page.problems answers = []
  waits : page.WaitsFor answers driver
  closed : driver.isAnswerable = false ∨ page.isVisible answers driver = false

variable {page : Page} {answers : Answers} {field : Field}

/-- A field that has to be answered and is not can be answered. -/
theorem isOpen_of_lacksAnswer (hfield : field ∈ page.fields)
    (h : page.lacksAnswer answers field = true) : page.IsOpen answers field := by
  simp only [lacksAnswer, Bool.and_eq_true] at h
  obtain ⟨⟨⟨hanswerable, _⟩, hvisible⟩, hmissing⟩ := h
  exact ⟨hfield, hanswerable, hvisible, hmissing⟩

/-- The driver that a page waits for is one of its fields. -/
theorem mem_of_waitsFor (h : page.WaitsFor answers field) : field ∈ page.fields := by
  obtain ⟨found, hactive, rfl⟩ := Option.map_eq_some_iff.1 h.1
  exact (Routing.active?_eq_some hactive).2.1

/-- A page on which something required is missing awaits just that. -/
theorem awaited_of_problems (h : page.problems answers ≠ []) :
    page.awaited answers = page.fields.filter (page.lacksAnswer answers) := by
  unfold awaited
  split
  · next hnone => exact absurd (List.map_eq_nil_iff.2 hnone) h
  · rfl

/-- A page on which nothing required is missing awaits the driver that it waits for. -/
theorem awaited_of_waitsFor (hcomplete : page.problems answers = [])
    (hwaits : page.WaitsFor answers field) : page.awaited answers = [field] := by
  have hlacking : page.fields.filter (page.lacksAnswer answers) = [] :=
    List.map_eq_nil_iff.1 hcomplete
  simp only [awaited, hlacking, hwaits.1, Option.toList_some, List.filter_cons, hwaits.2,
    List.filter_nil, if_true]

/-- On a page on which nothing required is missing, only a driver that it waits for is awaited. -/
theorem waitsFor_of_mem_awaited (hcomplete : page.problems answers = [])
    (h : field ∈ page.awaited answers) : page.WaitsFor answers field := by
  have hlacking : page.fields.filter (page.lacksAnswer answers) = [] :=
    List.map_eq_nil_iff.1 hcomplete
  simpa only [awaited, hlacking, List.mem_filter, Option.mem_toList, WaitsFor] using h

/-- A page awaits answers exactly when something required is missing or the routing waits for its
driver. -/
theorem awaited_ne_nil_iff :
    page.awaited answers ≠ [] ↔
      page.problems answers ≠ [] ∨ ∃ driver, page.WaitsFor answers driver := by
  by_cases hcomplete : page.problems answers = []
  · constructor
    · intro hawaited
      obtain ⟨driver, hdriver⟩ := List.exists_mem_of_ne_nil _ hawaited
      exact .inr ⟨driver, waitsFor_of_mem_awaited hcomplete hdriver⟩
    · rintro (hproblems | ⟨driver, hwaits⟩)
      · exact absurd hcomplete hproblems
      · rw [awaited_of_waitsFor hcomplete hwaits]
        exact List.cons_ne_nil driver []
  · refine iff_of_true ?_ (.inl hcomplete)
    rw [awaited_of_problems hcomplete]
    exact fun hnone => hcomplete (List.map_eq_nil_iff.2 hnone)

/-- Leaving a page on which something required is missing is blocked with the messages about it. -/
theorem advance_of_problems (h : page.problems answers ≠ []) (pages : List Page) (current : Int) :
    page.advance answers pages current = .ok (.blocked (page.problems answers)) := by
  unfold advance
  split
  · next hnone => exact absurd hnone h
  · rfl

/-- Leaving a page is blocked exactly when it awaits an answer, and then with the messages of all
the fields that it awaits. -/
theorem advance_eq_blocked_iff (page : Page) (answers : Answers) (pages : List Page)
    (current : Int) {messages : List String} :
    page.advance answers pages current = .ok (.blocked messages) ↔
      page.awaited answers ≠ [] ∧ messages = (page.awaited answers).map requiredMessage := by
  by_cases hcomplete : page.problems answers = []
  · have hadvance : page.advance answers pages current = page.leave answers pages current := by
      rw [advance, hcomplete]
    rw [hadvance]
    rcases page.leave_cases answers pages current with
      ⟨driver, hwaits, hleave⟩ | ⟨hfree, target, _, _, hleave⟩
    · rw [hleave, awaited_of_waitsFor hcomplete hwaits]
      simp [eq_comm]
    · have hnone : page.awaited answers = [] :=
        List.eq_nil_iff_forall_not_mem.2 fun driver hdriver =>
          hfree driver (waitsFor_of_mem_awaited hcomplete hdriver)
      rw [hleave, hnone]
      simp [Outcome.ofTarget_ne_blocked]
  · rw [advance_of_problems hcomplete, awaited_of_problems hcomplete]
    have hlacking : page.fields.filter (page.lacksAnswer answers) ≠ [] :=
      fun hnone => hcomplete (List.map_eq_nil_iff.2 hnone)
    simp [problems, hlacking, eq_comm]

/-- The fields that a page awaits can be answered exactly when it is stuck on no driver. -/
theorem forall_awaited_isOpen_iff :
    (∀ field ∈ page.awaited answers, page.IsOpen answers field) ↔
      ∀ driver, ¬ page.IsStuckOn answers driver := by
  constructor
  · intro hopen driver hstuck
    have hawaited := awaited_of_waitsFor hstuck.complete hstuck.waits
    have hdriver := hopen driver (hawaited ▸ List.mem_singleton.2 rfl)
    rcases hstuck.closed with hheading | hhidden
    · exact absurd hdriver.answerable (Bool.eq_false_iff.1 hheading)
    · exact absurd hdriver.visible (Bool.eq_false_iff.1 hhidden)
  · intro hfree field hfield
    by_cases hcomplete : page.problems answers = []
    · have hwaits := waitsFor_of_mem_awaited hcomplete hfield
      have hnot : ¬ (field.isAnswerable = false ∨ page.isVisible answers field = false) :=
        fun hclosed => hfree field ⟨hcomplete, hwaits, hclosed⟩
      rw [not_or, Bool.not_eq_false, Bool.not_eq_false] at hnot
      exact ⟨mem_of_waitsFor hwaits, hnot.1, hnot.2, hwaits.2⟩
    · rw [awaited_of_problems hcomplete, List.mem_filter] at hfield
      exact isOpen_of_lacksAnswer hfield.1 hfield.2

/-- Whatever the answers, a page is blocked exactly when it awaits some, with the messages of the
fields that it awaits. All of these fields take an answer, are visible and lack one, unless the
page is stuck: nothing required is missing and the driver of its routing, unanswered, is hidden or
a heading. Then the driver is all that it asks for. -/
theorem blocked_asks_open_iff (page : Page) (answers : Answers) :
    (∀ pages current messages,
      page.advance answers pages current = .ok (.blocked messages) ↔
        page.awaited answers ≠ [] ∧ messages = (page.awaited answers).map fun field =>
          "\"" ++ field.title.shown ++ "\" is required") ∧
    ((∀ field ∈ page.awaited answers, page.IsOpen answers field) ↔
      ∀ driver, ¬ page.IsStuckOn answers driver) ∧
    ∀ driver, page.IsStuckOn answers driver → page.awaited answers = [driver] :=
  ⟨fun pages current _ => advance_eq_blocked_iff page answers pages current,
    forall_awaited_isOpen_iff,
    fun _ hstuck => awaited_of_waitsFor hstuck.complete hstuck.waits⟩

/-- A page that asks for the kind of a pet only if there is one, and leads on by the kind. -/
def petPage : Page :=
  Example.page 1 "Pets" "" ""
    [Example.field "pet" "Have a pet?" (Example.input (.radio (Example.options ["Yes", "No"])) false),
     Example.shownWhen
       (Example.field "kind" "Which kind?"
         (Example.input (.radio (Example.options ["Cat", "Dog"])) false))
       "pet" "Yes"]
    (some ⟨.text "kind", [⟨.text "Dog", .text Target.finish⟩], .null⟩)

/-- Without a pet the page cannot be left: it asks for the kind, and no visible field has that
message. -/
theorem blocked_asks_hidden_pet :
    petPage.advance [("pet", .text "No")] [petPage, Example.signOff] 0 =
        .ok (.blocked ["\"Which kind?\" is required"]) ∧
      ∀ field ∈ petPage.fields, petPage.isVisible [("pet", .text "No")] field = true →
        requiredMessage field ≠ "\"Which kind?\" is required" :=
  ⟨rfl, by decide⟩

end Page

end PagedForm
