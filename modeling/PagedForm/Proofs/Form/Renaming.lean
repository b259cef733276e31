import Mathlib.Data.List.Find
import PagedForm.Navigation.Preview
import PagedForm.Proofs.Form.References
import PagedForm.Proofs.Routing.Selection

/-!
# A renamed field behaves as before

When a field gets a new id, the dependencies on it and the routing by it follow. If its answer is
moved to the new id as well, the page cannot be told from the page before: the same fields are
visible, the same answers are asked for, the preview is the same and so is every way of leaving the
page. An id is free for this when no field of the page has it and nothing on the page refers to it.
-/

namespace PagedForm

/-- An id after a field was renamed. -/
def FieldId.renamed (old new id : String) : String :=
  if id = old then new else id

/-- The answers with the answer under one id moved to another. -/
def Answers.moved (answers : Answers) (old new : String) : Answers :=
  match answers.find? old with
  | some answer => (answers.erase old).put new answer
  | none => answers

/-- A field after one was renamed, which may be the field itself or the one it depends on. -/
def Field.renamed (old new : String) (field : Field) : Field :=
  { field with
    id := FieldId.renamed old new field.id
    dependsOn := field.dependsOn.redirected old new }

/-- A page after a field was renamed. -/
def Page.renamed (page : Page) (old new : String) : Page :=
  { page with
    fields := page.fields.map (Field.renamed old new)
    routing := page.routing.map (Routing.redirected old new) }

/-- No field of the page has the id, and no dependency and no routing refers to it. -/
structure Page.IsFree (page : Page) (id : String) : Prop where
  fieldIds : id ∉ page.fieldIds
  dependsOn : ∀ field ∈ page.fields, field.dependsOn ≠ .text id
  routing : ∀ routing ∈ page.routing, routing.fieldId ≠ .text id

variable {old new : String}

/-! ## Ids, references and answers -/

/-- Ids other than the new one stay apart. -/
theorem FieldId.renamed_inj {a b : String} (ha : a ≠ new) (hb : b ≠ new) :
    renamed old new a = renamed old new b ↔ a = b := by
  unfold renamed
  by_cases hao : a = old
  · by_cases hbo : b = old
    · simp [hao, hbo]
    · rw [if_pos hao, if_neg hbo]
      exact ⟨fun h => absurd h.symm hb, fun h => absurd (h.symm.trans hao) hbo⟩
  · by_cases hbo : b = old
    · rw [if_neg hao, if_pos hbo]
      exact ⟨fun h => absurd h ha, fun h => absurd (h.trans hbo) hao⟩
    · rw [if_neg hao, if_neg hbo]

/-- A reference by an id is redirected as the id is renamed. -/
@[simp] theorem Value.redirected_text (id : String) :
    (text id).redirected old new = text (FieldId.renamed old new id) := by
  unfold redirected FieldId.renamed
  by_cases h : id = old
  · simp [isText, h]
  · simp [isText, h]

/-- What is no text is not redirected. -/
theorem Value.redirected_of_not_text {reference : Value} (h : ∀ id, reference ≠ text id) :
    reference.redirected old new = reference :=
  redirected_of_ne (h old)

/-- A reference counts as given when it did before, if neither id is empty. -/
theorem Value.truthy_redirected (hold : old ≠ "") (hnew : new ≠ "") (reference : Value) :
    (reference.redirected old new).truthy = reference.truthy := by
  by_cases h : reference = text old
  · have hgiven {id : String} (hid : id ≠ "") : (text id).truthy = true := by simpa using hid
    rw [h, redirected_text, FieldId.renamed, if_pos rfl, hgiven hold, hgiven hnew]
  · rw [redirected_of_ne h]

/-- Under the renamed id stands the answer that stood under the id before. -/
theorem Answers.get_moved {answers : Answers} (hanswers : answers.find? new = none) {id : String}
    (hid : id ≠ new) :
    (answers.moved old new).get (FieldId.renamed old new id) = answers.get id := by
  unfold Answers.moved Answers.get FieldId.renamed
  cases hfind : answers.find? old with
  | none =>
      by_cases h : id = old
      · rw [if_pos h, hanswers, h, hfind]
      · rw [if_neg h]
  | some answer =>
      dsimp only
      by_cases h : id = old
      · rw [if_pos h, Table.find?_put, if_pos rfl, h, hfind]
      · rw [if_neg h, Table.find?_put, if_neg hid, Table.find?_erase, if_neg h]

namespace Page

variable {page : Page} {answers : Answers}

/-! ## The renamed page -/

/-- No field of the page has an id that is free. -/
theorem IsFree.id_ne (hfree : page.IsFree new) {field : Field} (hfield : field ∈ page.fields) :
    field.id ≠ new := by
  rintro rfl
  exact hfree.fieldIds (List.mem_map_of_mem hfield)

/-- The answer to a field is under its renamed id what it was before. -/
theorem answer_renamed (hfree : page.IsFree new) (hanswers : Table.find? new answers = none)
    {field : Field} (hfield : field ∈ page.fields) :
    (answers.moved old new).get (field.renamed old new).id = answers.get field.id :=
  Answers.get_moved hanswers (hfree.id_ne hfield)

/-- A field is found by the redirected reference when it was found by the reference. -/
theorem field?_renamed (hfree : page.IsFree new) {reference : Value}
    (hreference : reference ≠ .text new) :
    (page.renamed old new).field? (reference.redirected old new) =
      (page.field? reference).map (Field.renamed old new) := by
  by_cases htext : ∃ id, reference = .text id
  · obtain ⟨id, rfl⟩ := htext
    have hid : id ≠ new := fun h => hreference (by rw [h])
    rw [Value.redirected_text]
    show (page.fields.map (Field.renamed old new)).find? _ =
      (page.fields.find? fun field => field.id = id).map (Field.renamed old new)
    rw [List.find?_map]
    refine congrArg (Option.map _) (List.find?_congr fun field hfield => ?_)
    exact decide_eq_decide.2 (FieldId.renamed_inj (hfree.id_ne hfield) hid)
  · rw [not_exists] at htext
    rw [Value.redirected_of_not_text htext]
    unfold field?
    split
    · exact absurd rfl (htext _)
    · rfl

/-- The answer under the field id of a routing is the one that was there before. -/
theorem routedAnswer_renamed (hanswers : Table.find? new answers = none) {routing : Routing}
    (hrouting : routing.fieldId ≠ .text new) :
    routedAnswer (routing.redirected old new) (answers.moved old new) =
      routedAnswer routing answers := by
  obtain ⟨fieldId, branches, defaultTarget⟩ := routing
  unfold routedAnswer Routing.redirected
  dsimp only at hrouting ⊢
  cases fieldId with
  | atom a =>
      cases a with
      | text id =>
          rw [Value.redirected_text]
          exact congrArg Except.ok (Answers.get_moved hanswers fun h => hrouting (by rw [h]))
      | null | bool | int | float => rfl
  | list | record | file => rw [Value.redirected_of_not_text (by simp)]

section Behaviour

variable (hold : old ≠ "") (hnew : new ≠ "") (hfree : page.IsFree new)
  (hanswers : Table.find? new answers = none)

include hold hnew hfree hanswers

/-- A field is visible when it was before. -/
theorem isVisible_renamed {field : Field} (hfield : field ∈ page.fields) :
    (page.renamed old new).isVisible (answers.moved old new) (field.renamed old new) =
      page.isVisible answers field := by
  have htruthy : (field.renamed old new).dependsOn.truthy = field.dependsOn.truthy :=
    Value.truthy_redirected hold hnew field.dependsOn
  have hfound : (page.renamed old new).field? (field.renamed old new).dependsOn =
      (page.field? field.dependsOn).map (Field.renamed old new) :=
    field?_renamed hfree (hfree.dependsOn field hfield)
  unfold isVisible
  rw [htruthy, hfound]
  cases hdriver : page.field? field.dependsOn with
  | none => rfl
  | some driver =>
      -- The answer of the driver has moved with its id.
      rw [Option.map_some]
      dsimp only
      rw [answer_renamed hfree hanswers (field?_eq_some hdriver).1]
      rfl

/-- The same answers have to be given, with the same messages. -/
theorem problems_renamed :
    (page.renamed old new).problems (answers.moved old new) = page.problems answers := by
  have hlacks : ∀ field ∈ page.fields,
      ((page.renamed old new).lacksAnswer (answers.moved old new) ∘ Field.renamed old new) field =
        page.lacksAnswer answers field := by
    intro field hfield
    unfold lacksAnswer
    rw [Function.comp_apply, isVisible_renamed hold hnew hfree hanswers hfield,
      answer_renamed hfree hanswers hfield]
    rfl
  show ((page.fields.map (Field.renamed old new)).filter _).map requiredMessage =
    (page.fields.filter _).map requiredMessage
  rw [List.filter_map, List.map_map, List.filter_congr hlacks]
  rfl

/-! ## The routing of the renamed page -/

omit hanswers in
/-- The driver of the routing is the same field. -/
theorem active?_renamed :
    Routing.active? (page.renamed old new).routing (page.renamed old new).fields =
      (Routing.active? page.routing page.fields).map fun found =>
        (found.1.redirected old new, found.2.renamed old new) := by
  show Routing.active? (page.routing.map _) (page.renamed old new).fields = _
  cases hrouting : page.routing with
  | none => rfl
  | some routing =>
      have htruthy : (routing.redirected old new).fieldId.truthy = routing.fieldId.truthy :=
        Value.truthy_redirected hold hnew routing.fieldId
      have hfound : (page.renamed old new).field? (routing.redirected old new).fieldId =
          (page.field? routing.fieldId).map (Field.renamed old new) :=
        field?_renamed hfree (hfree.routing routing hrouting)
      have hdriver : (routing.redirected old new).driverAmong? (page.renamed old new).fields =
          (routing.driverAmong? page.fields).map (Field.renamed old new) := by
        rw [Routing.driverAmong?_eq, Routing.driverAmong?_eq, htruthy, hfound]
        show (if (!routing.fieldId.truthy || routing.branches.isEmpty) = true then none else _) = _
        split <;> rfl
      show ((routing.redirected old new).driverAmong? _).map _ =
        ((routing.driverAmong? page.fields).map _).map _
      rw [hdriver, Option.map_map, Option.map_map]
      rfl

/-- The routing selects the same target. -/
theorem select_renamed :
    Routing.select (page.renamed old new).routing (page.renamed old new).fields
        (answers.moved old new) =
      Routing.select page.routing page.fields answers := by
  unfold Routing.select Routing.decision
  rw [active?_renamed hold hnew hfree]
  cases hactive : Routing.active? page.routing page.fields with
  | none => rfl
  | some found =>
      obtain ⟨routing, driver⟩ := found
      rw [Option.map_some]
      dsimp only
      rw [Routing.eval_chain, Routing.eval_chain]
      unfold Test.holds
      dsimp only
      rw [answer_renamed hfree hanswers (Routing.active?_eq_some hactive).2.1]
      rfl

/-- The page is left to the same place, among pages with the same names. -/
theorem leave_renamed {pages others : List Page}
    (hnames : others.map Page.name = pages.map Page.name) (current : Int) :
    (page.renamed old new).leave (answers.moved old new) others current =
      page.leave answers pages current := by
  unfold leave
  rw [hnames, select_renamed hold hnew hfree hanswers, Routing.driver?, Routing.driver?,
    active?_renamed hold hnew hfree]
  cases hactive : Routing.active? page.routing page.fields with
  | none => rfl
  | some found =>
      show (if isMissing ((answers.moved old new).get (found.2.renamed old new).id) then _ else _) =
        _
      rw [answer_renamed hfree hanswers (Routing.active?_eq_some hactive).2.1]
      rfl

/-- The page is left when nothing is missing, to the same place. -/
theorem advance_renamed {pages others : List Page}
    (hnames : others.map Page.name = pages.map Page.name) (current : Int) :
    (page.renamed old new).advance (answers.moved old new) others current =
      page.advance answers pages current := by
  unfold advance
  rw [problems_renamed hold hnew hfree hanswers, leave_renamed hold hnew hfree hanswers hnames]

/-- The preview is the same. -/
theorem preview_renamed :
    (page.renamed old new).preview (answers.moved old new) = page.preview answers := by
  have hmapped : (page.renamed old new).routing = page.routing.map (Routing.redirected old new) :=
    rfl
  unfold preview
  rw [select_renamed hold hnew hfree hanswers, hmapped]
  cases hrouting : page.routing with
  | none => rfl
  | some routing =>
      have hreference := hfree.routing routing hrouting
      have hanswer : routedAnswer (routing.redirected old new) (answers.moved old new) =
          routedAnswer routing answers := routedAnswer_renamed hanswers hreference
      have hfound : ((page.renamed old new).field? (routing.redirected old new).fieldId).isNone =
          (page.field? routing.fieldId).isNone := by
        rw [Routing.redirected, field?_renamed hfree hreference, Option.isNone_map]
      simp only [Option.map_some]
      rw [hanswer, hfound]

end Behaviour

/-! ## The edit that renames a field -/

/-- Among fields with distinct ids, replacing one by itself under a new id renames it. -/
theorem replaceField_eq_renamed (hdistinct : page.fieldIds.Nodup) {place : Nat} {field : Field}
    (hplace : page.fields[place]? = some field) :
    page.replaceField place field.id { field with id := new } = page.renamed field.id new := by
  have hfields : (page.fields.set place { field with id := new }).map (redirect field.id new) =
      page.fields.map (Field.renamed field.id new) := by
    refine List.ext_getElem? fun index => ?_
    rw [List.getElem?_map, List.getElem?_map]
    by_cases hindex : place = index
    · subst hindex
      obtain ⟨hlt, _⟩ := List.getElem?_eq_some_iff.1 hplace
      rw [List.getElem?_set_self hlt, hplace, Option.map_some, Option.map_some, redirect_eq]
      simp [Field.renamed, FieldId.renamed]
    · rw [List.getElem?_set_ne hindex]
      cases hother : page.fields[index]? with
      | none => rfl
      | some other =>
          -- Another place holds another id.
          have hne : other.id ≠ field.id := by
            intro hsame
            have hat := getElem?_fieldIds hplace
            obtain ⟨hlt, _⟩ := List.getElem?_eq_some_iff.1 hat
            refine hindex ((List.getElem?_inj hlt hdistinct).1 ?_)
            rw [hat, getElem?_fieldIds hother, hsame]
          rw [Option.map_some, Option.map_some, redirect_eq]
          simp [Field.renamed, FieldId.renamed, hne]
  rw [replaceField_eq, hfields]
  rfl

/-- A field that can be defined is revised to itself under a new id. -/
theorem reviseField_rename {field : Field} (hdefined : field.IsDefined) (hnew : new ≠ "") :
    reviseField field field.id [("id", .text new)] = .ok { field with id := new } := by
  have hrenamed : ({ field with id := new } : Field).IsDefined := ⟨hnew, hdefined.body⟩
  exact reviseField_eq_ok.2 hrenamed.build_attributes

/-- Updating a field with nothing but a new id that no field has renames it. -/
theorem updateField_rename (hdefined : ∀ field ∈ page.fields, field.IsDefined)
    (hdistinct : page.fieldIds.Nodup) (hold : old ∈ page.fieldIds) (hnew : new ≠ "")
    (hfree : new ∉ page.fieldIds) :
    page.updateField old [("id", .text new)] = .ok (page.renamed old new) := by
  obtain ⟨place, hplace⟩ : ∃ place, page.fieldIndex? old = some place := by
    rw [← Option.isSome_iff_exists, fieldIndex?, List.findIdx?_isSome, List.any_eq_true]
    obtain ⟨field, hfield, hid⟩ := List.mem_map.1 hold
    exact ⟨field, hfield, decide_eq_true hid⟩
  obtain ⟨field, hfield, _, rfl⟩ := fieldById?_of_fieldIndex? hplace
  have hrevised := reviseField_rename (hdefined field (List.mem_of_getElem? hfield)) hnew
  have hnone : page.field? (.text new) = none := fieldById?_eq_none.2 hfree
  unfold updateField
  rw [fieldIndex_eq_ok.2 hplace, Result.ok_bind, hfield]
  show (do
    if !(Value.text new).isText field.id && (page.field? (.text new)).isSome then
      throw (.edit (.takenId (.text new) page.name))
    let revised ← reviseField field field.id [("id", .text new)]
    pure (page.replaceField place field.id revised) : Result Page) = _
  rw [hnone, hrevised, Option.isSome_none, Bool.and_false, if_neg Bool.false_ne_true]
  exact congrArg Except.ok (replaceField_eq_renamed hdistinct hfield)

end Page

/-- With its own answers and among its own pages, a page behaves like another: the same fields are
visible, by their places, the same answers are missing, the preview is the same, and leaving the
page has the same outcome whether what is missing is looked at or not. -/
structure Page.BehavesLike (changed : Page) (moved : Answers) (others : List Page) (page : Page)
    (answers : Answers) (pages : List Page) : Prop where
  visible : changed.fields.map (changed.isVisible moved) = page.fields.map (page.isVisible answers)
  problems : changed.problems moved = page.problems answers
  preview : changed.preview moved = page.preview answers
  leave : ∀ current, changed.leave moved others current = page.leave answers pages current
  advance : ∀ current, changed.advance moved others current = page.advance answers pages current

/-- A page with a renamed field behaves like the page before, among pages with the same names. -/
theorem Page.behavesLike_renamed {page : Page} (hold : old ≠ "") (hnew : new ≠ "")
    (hfree : page.IsFree new) {answers : Answers} (hanswers : Table.find? new answers = none)
    {pages others : List Page} (hnames : others.map Page.name = pages.map Page.name) :
    (page.renamed old new).BehavesLike (answers.moved old new) others page answers pages where
  visible := by
    show (page.fields.map (Field.renamed old new)).map _ = _
    rw [List.map_map]
    exact List.map_congr_left fun field hfield =>
      isVisible_renamed hold hnew hfree hanswers hfield
  problems := problems_renamed hold hnew hfree hanswers
  preview := preview_renamed hold hnew hfree hanswers
  leave := leave_renamed hold hnew hfree hanswers hnames
  advance := advance_renamed hold hnew hfree hanswers hnames

namespace Form

variable {form : Form}

/-- When a field of a page gets an id that is free, and the answer to it is moved to the new id,
the page behaves as it did before. -/
theorem renamed_field_behaves_alike {index : Nat} {page : Page}
    (hpage : form.pages[index]? = some page) (hdefined : ∀ field ∈ page.fields, field.IsDefined)
    (hdistinct : page.fieldIds.Nodup) (hold : old ∈ page.fieldIds) (hnew : new ≠ "")
    (hfree : page.IsFree new) :
    ∃ renamed changed,
      form.edit (.updateField index (.text old) [("id", .text new)]) = .ok renamed ∧
      renamed.pages[index]? = some changed ∧
      changed.fieldIds = page.fieldIds.map (FieldId.renamed old new) ∧
      ∀ answers : Answers, Table.find? new answers = none →
        changed.BehavesLike (answers.moved old new) renamed.pages page answers form.pages := by
  have hgiven : old ≠ "" := by
    obtain ⟨field, hfield, rfl⟩ := List.mem_map.1 hold
    exact (hdefined field hfield).id
  have hupdate := Page.updateField_rename hdefined hdistinct hold hnew hfree.fieldIds
  obtain ⟨hlt, hat⟩ := List.getElem?_eq_some_iff.1 hpage
  refine ⟨{ form with pages := form.pages.set index (page.renamed old new) },
    page.renamed old new, ?_, List.getElem?_set_self hlt, ?_, fun answers hanswers => ?_⟩
  · show form.onPage index (fun page => page.updateField old [("id", .text new)]) = _
    unfold onPage
    rw [pageAt_natCast hpage, Result.ok_bind]
    dsimp only
    rw [hupdate]
    rfl
  · show (page.fields.map (Field.renamed old new)).map Field.id = (page.fields.map Field.id).map _
    rw [List.map_map, List.map_map]
    rfl
  · refine Page.behavesLike_renamed hgiven hnew hfree hanswers ?_
    -- The renamed page keeps its name, so the names of all pages are as before.
    have hname : (page.renamed old new).name = form.pages[index].name := by
      rw [hat]
      rfl
    dsimp only
    rw [List.map_set, hname, ← List.map_set, List.set_getElem_self]

/-- On the second page of the example form, the field that shows another one and drives the routing
can be renamed. -/
theorem renamed_field_behaves_alike_rescheduled :
    Example.form.pages[1]? = some Example.accessProblem ∧
      (∀ field ∈ Example.accessProblem.fields, field.IsDefined) ∧
      Example.accessProblem.fieldIds.Nodup ∧
      "rescheduled" ∈ Example.accessProblem.fieldIds ∧ "visitMoved" ≠ "" ∧
      Example.accessProblem.IsFree "visitMoved" ∧
      ∃ renamed changed,
        Example.form.edit (.updateField 1 (.text "rescheduled") [("id", .text "visitMoved")]) =
          .ok renamed ∧
        renamed.pages[1]? = some changed ∧ changed.fieldIds = ["visitMoved", "newDate"] ∧
        changed.BehavesLike [("visitMoved", .text "Yes")] renamed.pages
          Example.accessProblem [("rescheduled", .text "Yes")] Example.form.pages := by
  have hdefined : ∀ field ∈ Example.accessProblem.fields, field.IsDefined :=
    List.forall_mem_cons.2 ⟨⟨by decide, .absent _⟩,
      List.forall_mem_singleton.2 ⟨by decide, .absent _⟩⟩
  have hfree : Example.accessProblem.IsFree "visitMoved" := by
    refine ⟨by decide, ?_, ?_⟩
    · exact List.forall_mem_cons.2 ⟨nofun, List.forall_mem_singleton.2
        (show Value.text "rescheduled" ≠ .text "visitMoved" by simp)⟩
    · intro routing hrouting
      cases hrouting
      show Value.text "rescheduled" ≠ .text "visitMoved"
      simp
  obtain ⟨renamed, changed, hrenamed, hchanged, hids, hbehaves⟩ :=
    renamed_field_behaves_alike (show Example.form.pages[1]? = _ from rfl) hdefined
      (by decide) (show "rescheduled" ∈ Example.accessProblem.fieldIds by decide)
      (by decide) hfree
  exact ⟨rfl, hdefined, by decide, by decide, by decide, hfree, renamed, changed, hrenamed,
    hchanged, hids, hbehaves [("rescheduled", .text "Yes")] rfl⟩

end Form

end PagedForm
