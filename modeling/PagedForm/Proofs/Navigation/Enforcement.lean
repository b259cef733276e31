import PagedForm.Proofs.Form.DistinctIds
import PagedForm.Proofs.Navigation.Blocking
import PagedForm.Proofs.Schema.Agreement

/-!
# What has to be answered before a page is left

The data schema of a page lists the ids that are required, and leaving the page checks its fields.
On a page with distinct ids the check is that of the list: it asks for the listed fields that are
visible and lack an answer, in the order of the list and for each once.
-/

namespace PagedForm

/-- The required ids whose field is visible on the page and whose answer is missing. -/
def DataSchema.unanswered (schema : DataSchema) (page : Page) (answers : Answers) : List String :=
  schema.required.filter fun id =>
    (page.fieldById? id).any (page.isVisible answers) && isMissing (answers.get id)

namespace Page

variable {page : Page} {settings : Settings} {schema : DataSchema}

/-- A field lacks an answer when it has to be answered, is visible and its answer is missing. -/
theorem filter_lacksAnswer (page : Page) (answers : Answers) :
    page.fields.filter (page.lacksAnswer answers) =
      page.requiredFields.filter fun field =>
        page.isVisible answers field && isMissing (answers.get field.id) := by
  rw [← page.requiredFields_eq, List.filter_filter, List.filter_filter]
  refine List.filter_congr fun field _ => ?_
  unfold lacksAnswer
  ac_rfl

/-- On a page with distinct ids, the required ids that are not answered are those of the fields that
lack an answer. -/
theorem unanswered_eq (hdistinct : page.fieldIds.Nodup)
    (h : DataSchema.ofPage page settings = .ok schema) (answers : Answers) :
    schema.unanswered page answers =
      (page.fields.filter (page.lacksAnswer answers)).map Field.id := by
  rw [DataSchema.unanswered, DataSchema.required_ofPage h, filter_lacksAnswer, List.filter_map]
  -- Each id of the list is that of a field, and leads back to it.
  refine congrArg (List.map Field.id) (List.filter_congr fun field hfield => ?_)
  have hfound := fieldById?_of_mem hdistinct (List.mem_of_mem_filter hfield)
  rw [Function.comp_apply, hfound, Option.any_some]

/-- On a page with distinct ids, what is said of a field through its id is said of the field. -/
theorem filterMap_fieldById? {α : Type} (hdistinct : page.fieldIds.Nodup) {fields : List Field}
    (hfields : ∀ field ∈ fields, field ∈ page.fields) (say : Field → α) :
    (fields.map Field.id).filterMap (fun id => (page.fieldById? id).map say) = fields.map say := by
  rw [List.filterMap_map, ← List.filterMap_eq_map]
  refine List.filterMap_congr fun field hfield => ?_
  rw [Function.comp_apply, fieldById?_of_mem hdistinct (hfields field hfield)]
  rfl

/-- Leaving a page is blocked exactly when something required is missing or the routing waits for
its driver. -/
theorem exists_advance_blocked_iff {answers : Answers} (pages : List Page) (current : Int) :
    (∃ messages, page.advance answers pages current = .ok (.blocked messages)) ↔
      page.problems answers ≠ [] ∨ ∃ driver, page.WaitsFor answers driver := by
  rw [← awaited_ne_nil_iff]
  simp only [advance_eq_blocked_iff, exists_and_left, exists_eq, and_true]

/-- Whatever the settings and the answers, a page with distinct ids has a data schema exactly when
its size limits can be written, and then the messages about missing answers are those of the
required ids of the schema whose field is visible and lacks an answer, in their order and each once.
Leaving the page is blocked exactly when there are such messages or the routing waits for its
driver, and with these messages when there are some. -/
theorem schema_is_enforced (hdistinct : page.fieldIds.Nodup) (settings : Settings)
    (answers : Answers) :
    ((∃ schema, DataSchema.ofPage page settings = .ok schema) ↔
      page.HasWritableLimits settings) ∧
    (∀ schema, DataSchema.ofPage page settings = .ok schema →
      (schema.unanswered page answers).Nodup ∧
      page.problems answers = (schema.unanswered page answers).filterMap fun id =>
        (page.fieldById? id).map fun field => "\"" ++ field.title.shown ++ "\" is required") ∧
    ∀ pages current,
      ((∃ messages, page.advance answers pages current = .ok (.blocked messages)) ↔
        page.problems answers ≠ [] ∨ ∃ driver, page.WaitsFor answers driver) ∧
      (page.problems answers ≠ [] →
        page.advance answers pages current = .ok (.blocked (page.problems answers))) := by
  refine ⟨DataSchema.exists_ofPage, fun schema hschema => ?_, fun pages current =>
    ⟨exists_advance_blocked_iff pages current,
      fun hproblems => advance_of_problems hproblems pages current⟩⟩
  rw [unanswered_eq hdistinct hschema]
  constructor
  · exact (List.filter_sublist.map Field.id).nodup hdistinct
  · exact (filterMap_fieldById? hdistinct (fun _ => List.mem_of_mem_filter) requiredMessage).symm

/-- Without access to the site, the first page of the example form asks for the technician and for
the reason, which are required and visible. With access the reason is hidden, and the page is
blocked by the technician alone. -/
theorem schema_is_enforced_access :
    Example.jobDetails.fieldIds.Nodup ∧
      ∃ schema, DataSchema.ofPage Example.jobDetails .standard = .ok schema ∧
        schema.required = ["technicianName", "siteAccess", "accessNotes"] ∧
        schema.unanswered Example.jobDetails [("siteAccess", .text "No")] =
          ["technicianName", "accessNotes"] ∧
        Example.jobDetails.problems [("siteAccess", .text "No")] =
          ["\"Technician\" is required", "\"Why not?\" is required"] ∧
        Example.jobDetails.advance [("siteAccess", .text "Yes")] Example.form.pages 0 =
          .ok (.blocked ["\"Technician\" is required"]) := by
  have hdistinct : Example.jobDetails.fieldIds.Nodup := by decide
  obtain ⟨schema, hschema⟩ :
      ∃ schema, DataSchema.ofPage Example.jobDetails .standard = .ok schema := ⟨_, rfl⟩
  have hrequired : schema.required = ["technicianName", "siteAccess", "accessNotes"] := by
    cases hschema
    rfl
  have hunanswered : schema.unanswered Example.jobDetails [("siteAccess", .text "No")] =
      ["technicianName", "accessNotes"] := by
    rw [DataSchema.unanswered, hrequired]
    rfl
  obtain ⟨_, hmessages, _⟩ :=
    schema_is_enforced hdistinct .standard [("siteAccess", .text "No")]
  obtain ⟨_, _, hblocked⟩ := schema_is_enforced hdistinct .standard [("siteAccess", .text "Yes")]
  refine ⟨hdistinct, schema, hschema, hrequired, hunanswered, ?_, ?_⟩
  · rw [(hmessages schema hschema).2, hunanswered]
    rfl
  · exact (hblocked Example.form.pages 0).2 (List.cons_ne_nil _ _)

end Page

end PagedForm
