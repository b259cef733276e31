import PagedForm.Diagnosis.Report
import PagedForm.Example
import PagedForm.Form.Compare
import PagedForm.Proofs.Form.ReloadedRuns

/-!
# A form that was saved and read again means the same

What becomes of a form has the same mistakes, the same graph and the same report, whatever its
attributes are. It is exported to the same document when the flags of its file fields for several
files are truth values, since only these are exported as they were given.
`Form.reloaded_means_same` puts this together for typed forms.
-/

namespace PagedForm

variable (settings : Settings)

/-! ## Mistakes -/

namespace Page

/-- A field has the same mistakes. -/
@[simp] theorem fieldMistakes_reloaded (field : Field) :
    fieldMistakes settings field.reloaded = fieldMistakes settings field := by
  have htitle : titleMistake field.reloaded = titleMistake field := rfl
  have hoptions : optionsMistake field.reloaded = optionsMistake field := by
    simp [optionsMistake]
  have hsize : sizeMistake settings field.reloaded = sizeMistake settings field := by
    unfold sizeMistake
    rw [Field.upload?_reloaded, Field.title_reloaded]
    cases field.upload? with
    | none => rfl
    | some spec => rfl
  unfold fieldMistakes
  rw [htitle, hoptions, hsize]

/-- A page has the same mistakes. -/
@[simp] theorem mistakes_reloaded (page : Page) :
    page.reloaded.mistakes settings = page.mistakes settings := by
  simp [mistakes, List.mapM_map, Function.comp_def]

end Page

/-! ## Compiled pages -/

/-- The property of a field stays the same. -/
@[simp] theorem Property.ofField_reloaded (field : Field) :
    Property.ofField field.reloaded settings = Property.ofField field settings := by
  have hshape : PropertyShape.ofField field.reloaded settings =
      PropertyShape.ofField field settings := by
    cases field using Field.bodyCases with
    | title => rfl
    | readonly => rfl
    | input _ _ _ _ _ _ _ entry => cases entry <;> rfl
  simp [Property.ofField, hshape]

/-- The data schema of a page stays the same. -/
@[simp] theorem DataSchema.ofPage_reloaded (page : Page) :
    DataSchema.ofPage page.reloaded settings = DataSchema.ofPage page settings := by
  simp [DataSchema.ofPage, List.filter_map, List.mapM_map, Function.comp_def]

/-- The widget of a field stays the same when the flag for several files is a truth value. -/
theorem Widget.ofField_reloaded {field : Field}
    (h : ∀ spec ∈ field.upload?, ∃ b, spec.multiple = .bool b) :
    Widget.ofField field.reloaded settings = Widget.ofField field settings := by
  have hoptions : WidgetOptions.ofField field.reloaded settings =
      WidgetOptions.ofField field settings := by
    cases field using Field.bodyCases with
    | title => rfl
    | readonly => rfl
    | input _ _ _ _ _ _ _ entry =>
        cases entry with
        | text | textarea | select | radio | checkbox => rfl
        | file spec =>
            obtain ⟨b, hmultiple⟩ := h spec rfl
            have hkept : Value.bool spec.multiple.truthy = spec.multiple := by
              rw [hmultiple]
              rfl
            exact congrArg (fun multiple => spec.accept.map fun accept =>
              some (WidgetOptions.files accept multiple)) hkept
  simp [Widget.ofField, hoptions]

/-- The presentation schema of a page stays the same when these flags are truth values. -/
theorem Presentation.ofPage_reloaded {page : Page}
    (h : ∀ field ∈ page.fields, ∀ spec ∈ field.upload?, ∃ b, spec.multiple = .bool b) :
    Presentation.ofPage page.reloaded settings = Presentation.ofPage page settings := by
  have hfield : ∀ field ∈ page.fields.filter Field.isAnswerable, ∀ presentation,
      addField settings presentation field.reloaded = addField settings presentation field := by
    intro field hmem presentation
    have hwidget := Widget.ofField_reloaded settings (h field (List.mem_of_mem_filter hmem))
    simp [addField, hwidget]
  have hanswerable : page.reloaded.fields.filter Field.isAnswerable =
      (page.fields.filter Field.isAnswerable).map Field.reloaded := by
    simp [List.filter_map, Function.comp_def]
  unfold Presentation.ofPage
  rw [hanswerable, List.foldlM_map]
  exact Result.foldlM_congr hfield _

/-- The action of a page stays the same. -/
@[simp] theorem Action.ofPage_reloaded (page : Page) :
    Action.ofPage page.reloaded = Action.ofPage page := by
  have hcheck : page.reloaded.summaryCheck.orElse (.text "true") =
      page.summaryCheck.orElse (.text "true") :=
    Value.orElse_orElse page.summaryCheck (.text "true")
  simp [Action.ofPage, Routing.expression, hcheck, Page.actionName_reloaded]

/-- A page starts with the same answers. -/
@[simp] theorem Answers.initial_reloaded (fields : List Field) :
    Answers.initial (fields.map Field.reloaded) = Answers.initial fields := by
  simp [Answers.initial, List.filter_map, Function.comp_def]

/-- A page is compiled into the same parts when these flags are truth values. -/
theorem Page.compile_reloaded {page : Page}
    (h : ∀ field ∈ page.fields, ∀ spec ∈ field.upload?, ∃ b, spec.multiple = .bool b) :
    page.reloaded.compile settings = page.compile settings := by
  simp [compile, Presentation.ofPage_reloaded settings h, List.countP_map, Function.comp_def]

namespace Form

variable {form : Form}

/-! ## Exported forms -/

/-- A page is exported to the same record with the same notes when these flags are truth values. -/
theorem exportPage_reloaded {page : Page} {index : Nat}
    (h : ∀ field ∈ page.fields, ∀ spec ∈ field.upload?, ∃ b, spec.multiple = .bool b) :
    exportPage settings (page.reloaded, index) = exportPage settings (page, index) := by
  have hnote : exportNote page.reloaded = exportNote page := rfl
  simp [exportPage, Page.compile_reloaded settings h, hnote]

/-- A form has what becomes of its fields. -/
theorem fields_reloaded (form : Form) : form.reloaded.fields = form.fields.map Field.reloaded := by
  simp [fields, List.flatMap_map, List.map_flatMap]

/-- The same kinds are in use. -/
@[simp] theorem kindNames_reloaded (form : Form) : form.reloaded.kindNames = form.kindNames := by
  simp [kindNames, fields_reloaded, Function.comp_def]

/-- A form is exported to the same document when its flags for several files are truth values. -/
theorem exported_reloaded (created : Moment)
    (h : ∀ page ∈ form.pages, ∀ field ∈ page.fields, ∀ spec ∈ field.upload?,
      ∃ b, spec.multiple = .bool b) :
    form.reloaded.exported created settings = form.exported created settings := by
  have hpages : form.reloaded.pages.zipIdx.mapM (exportPage settings) =
      form.pages.zipIdx.mapM (exportPage settings) := by
    rw [pages_reloaded, List.zipIdx_map, List.mapM_map]
    refine Result.mapM_congr ?_
    rintro ⟨page, index⟩ hentry
    have hpage := List.fst_mem_of_mem_zipIdx hentry
    exact exportPage_reloaded settings (h page hpage)
  have hdescription : form.reloaded.exportDescription = form.exportDescription := by
    simp [exportDescription, description_reloaded]
  unfold exported
  rw [hpages, hdescription]
  simp [fields_reloaded, name_reloaded]

/-! ## Reports -/

/-- A target leads to the same place. -/
@[simp] theorem destination?_reloaded (source : Nat) (target : Value) :
    form.reloaded.destination? source target = form.destination? source target := by
  simp [destination?, pageIndex?, List.findIdx?_map, Function.comp_def]

/-- The same edges leave a page. -/
theorem edgesFrom_reloaded (source : Nat) (page : Page) :
    form.reloaded.edgesFrom source page.reloaded = form.edgesFrom source page := by
  unfold edgesFrom
  rw [Page.routing_reloaded, Page.fields_reloaded, Routing.active?_reloaded]
  cases Routing.active? page.routing page.fields with
  | none => simp [edgeTo]
  | some found => simp [edgeTo, branchLabel, comparatorWord]

/-- A form has the same edges. -/
@[simp] theorem edges_reloaded : form.reloaded.edges = form.edges := by
  simp [edges, List.zipIdx_map, List.flatMap_map, edgesFrom_reloaded]

/-- A form has the same graph. -/
@[simp] theorem graph_reloaded : form.reloaded.graph = form.graph := by
  simp [graph]

/-- The page at a place has the same name. -/
@[simp] theorem nameAt_reloaded (index : Nat) : form.reloaded.nameAt index = form.nameAt index := by
  unfold nameAt
  rw [pages_reloaded, List.getElem?_map]
  cases form.pages[index]? with
  | none => rfl
  | some page => rfl

/-- The names of the pages can be kept or not, as before. -/
@[simp] theorem checkNames_reloaded : form.reloaded.checkNames = form.checkNames := by
  simp [checkNames, List.any_map, Function.comp_def]

/-- Several pages have the same names. -/
@[simp] theorem duplicateNames_reloaded :
    form.reloaded.duplicateNames = form.duplicateNames := by
  simp [duplicateNames, List.filterMap_map, Function.comp_def]

/-- The same targets are missing. -/
@[simp] theorem missingTargets_reloaded :
    form.reloaded.missingTargets = form.missingTargets := by
  simp [missingTargets]

/-- The pages with the same labels cannot be reached. -/
@[simp] theorem unreachableLabels_reloaded :
    form.reloaded.unreachableLabels = form.unreachableLabels := by
  have hlabel (index : Nat) : (form.reloaded.pages[index]?.map fun page => page.label index) =
      form.pages[index]?.map fun page => page.label index := by
    rw [pages_reloaded, List.getElem?_map, Option.map_map]
    rfl
  have hunreachable : form.reloaded.unreachable = form.unreachable := by
    simp [unreachable]
  unfold unreachableLabels
  rw [hunreachable]
  simp only [hlabel]

/-- The same names stand along the cycle that is found. -/
@[simp] theorem cycleNames?_reloaded : form.reloaded.cycleNames? = form.cycleNames? := by
  have hnames : form.reloaded.nameAt = form.nameAt := funext fun index => by simp
  simp [cycleNames?, hnames]

end Form

/-- The findings in a page stay the same. -/
@[simp] theorem PageFindings.ofPage_reloaded (page : Page) (index : Nat) :
    ofPage settings (page.reloaded, index) = ofPage settings (page, index) := by
  have hlabel : page.reloaded.label index = page.label index := rfl
  have hids : page.reloaded.fieldIds = page.fieldIds := by
    simp [Page.fieldIds, Function.comp_def]
  have hinert : page.reloaded.hasInertRouting = page.hasInertRouting := by
    unfold Page.hasInertRouting
    rw [Page.routing_reloaded, Page.fields_reloaded, Routing.driver?_reloaded]
    cases page.routing with
    | none => rfl
    | some routing => simp
  have hdangling : page.reloaded.fields.filterMap page.reloaded.danglingDependency? =
      page.fields.filterMap page.danglingDependency? := by
    rw [Page.fields_reloaded, List.filterMap_map]
    refine List.filterMap_congr fun field _ => ?_
    show page.reloaded.danglingDependency? field.reloaded = page.danglingDependency? field
    by_cases htruthy : field.dependsOn.truthy = true
    · simp [Page.danglingDependency?, Field.dependsOn_reloaded htruthy]
    · simp [Page.danglingDependency?, htruthy]
  unfold ofPage
  simp only [hlabel, hids, hinert, hdangling]
  simp

/-- The report on a form stays the same. -/
theorem Report.ofForm_reloaded (form : Form) :
    ofForm form.reloaded settings = ofForm form settings := by
  have hcollect (findings : List PageFindings) :
      collect form.reloaded findings = collect form findings := by
    simp [collect, Form.fields_reloaded]
  have hfindings : form.reloaded.pages.zipIdx.mapM (PageFindings.ofPage settings) =
      form.pages.zipIdx.mapM (PageFindings.ofPage settings) := by
    rw [Form.pages_reloaded, List.zipIdx_map, List.mapM_map]
    exact Result.mapM_congr fun entry _ => PageFindings.ofPage_reloaded settings entry.1 entry.2
  have hempty : ofEmpty form.reloaded = ofEmpty form := rfl
  unfold ofForm
  rw [hempty, hfindings]
  simp [hcollect]

/-! ## Typed forms -/

namespace Form

/-- A typed form can be saved and read again, and what is read means the same: it is exported to
the same document with the same log, it gets the same report, and each of its pages shows the same
fields, has the same problems and is left to the same place. -/
theorem reloaded_means_same {form : Form} (h : form.IsTyped) :
    ∃ loaded, ofDocument form.toDocument = .ok loaded ∧
      (∀ created settings, loaded.exported created settings = form.exported created settings) ∧
      (∀ settings, Report.ofForm loaded settings = Report.ofForm form settings) ∧
      loaded.pages.length = form.pages.length ∧
      ∀ (index : Nat) (page : Page), form.pages[index]? = some page →
        ∃ other, loaded.pages[index]? = some other ∧
          ∀ answers,
            (other.visibleFields answers).map Field.id =
              (page.visibleFields answers).map Field.id ∧
            other.problems answers = page.problems answers ∧
            ∀ current, other.advance answers loaded.pages current =
              page.advance answers form.pages current := by
  have hmultiple : ∀ page ∈ form.pages, ∀ field ∈ page.fields, ∀ spec ∈ field.upload?,
      ∃ b, spec.multiple = .bool b := fun page hpage field hfield _ hspec =>
    (((h.pages page hpage).fields field hfield).upload hspec).multiple
  refine ⟨form.reloaded, ofDocument_toDocument h.isDefined, ?_, ?_, ?_, ?_⟩
  · intro created settings
    exact exported_reloaded settings created hmultiple
  · intro settings
    exact Report.ofForm_reloaded settings form
  · exact List.length_map Page.reloaded
  · intro index page hpage
    refine ⟨page.reloaded, ?_, fun answers => ⟨?_, ?_, fun current => ?_⟩⟩
    · rw [pages_reloaded, List.getElem?_map, hpage]
      rfl
    · exact page.visibleIds_reloaded answers
    · exact page.problems_reloaded answers
    · exact page.advance_reloaded answers form.pages current

/-- A page on which everything is written that reading replaces: an empty dependency, capture mode,
summary check and default target, and a described file as a default. -/
def sparsePage : Page :=
  { Example.page 1 "Photo" "" ""
      [{ Example.field "photo" "Photo"
          (.input ⟨.bool true, .bool false,
            .file (.described ⟨.text "a.png", .int 3, .text "image/png", .text ""⟩),
            .file ⟨[], .null, .bool false, .text ""⟩⟩) with
          dependsOn := .text "" }]
      (Example.route "photo" "a.png" Target.finish "") with
    summaryCheck := .text "" }

/-- The form of this page alone. -/
def sparseForm : Form :=
  { Example.form with pages := [sparsePage] }

/-- The form with the sparse page is read as another form, and still it means the same. -/
theorem reloaded_means_same_sparse :
    sparseForm.IsTyped ∧
      ∃ loaded, ofDocument sparseForm.toDocument = .ok loaded ∧ loaded.same sparseForm = false ∧
        (∀ created settings,
          loaded.exported created settings = sparseForm.exported created settings) ∧
        ∀ settings, Report.ofForm loaded settings = Report.ofForm sparseForm settings := by
  have hfield : ∀ field ∈ sparsePage.fields, field.IsTyped := by
    intro field hfield
    obtain rfl := List.mem_singleton.1 hfield
    refine Field.isTyped_iff.2 ⟨⟨by decide, .file _ rfl⟩, ⟨_, rfl⟩, .inr ⟨_, rfl⟩, .inl rfl, ?_⟩
    intro i hbody
    cases hbody
    refine ⟨⟨_, rfl⟩, ⟨_, rfl⟩, ?_⟩
    intro own hown
    simp only [Entry.attributes, List.mem_cons, List.not_mem_nil, or_false] at hown
    rcases hown with rfl | rfl | rfl | rfl
    · exact ⟨[], rfl⟩
    · exact .inl rfl
    · exact ⟨false, rfl⟩
    · exact ⟨"", rfl⟩
  have hrouting : ∀ routing ∈ sparsePage.routing, routing.IsTyped := by
    intro routing hrouting
    cases hrouting
    refine ⟨⟨?_, ?_, .inr ⟨_, rfl⟩⟩, ⟨_, rfl⟩⟩
    · exact List.forall_mem_singleton.2 ⟨_, rfl⟩
    · exact List.forall_mem_singleton.2 ⟨_, rfl⟩
  have htyped : sparseForm.IsTyped :=
    ⟨⟨_, rfl⟩, ⟨_, rfl⟩,
      List.forall_mem_singleton.2
        ⟨⟨_, rfl⟩, ⟨_, rfl⟩, ⟨_, rfl⟩, hfield, ⟨_, rfl⟩, ⟨_, rfl⟩, hrouting⟩,
      .inl rfl, .inl rfl, .inl rfl⟩
  obtain ⟨loaded, hloaded, hexported, hreport, _⟩ := reloaded_means_same htyped
  obtain rfl : sparseForm.reloaded = loaded :=
    Except.ok.inj ((ofDocument_toDocument htyped.isDefined).symm.trans hloaded)
  exact ⟨htyped, _, hloaded, by decide, hexported, hreport⟩

end Form

end PagedForm
