import PagedForm.Proofs.Form.Loading
import PagedForm.Proofs.Form.Lossless

/-!
# Loaded forms are settled

Reading a saved form gives every flag a truth value and replaces what counts as empty among the
dependencies, capture modes, summary checks and default targets. It leaves alone what it has put
there: a form that was read is settled, and saving a settled form and reading it again gives a form
with the same document. The form itself is the same unless one of its defaults describes a file.
-/

namespace PagedForm

/-- The flags of an input and its entry come back as they are. -/
structure Input.IsSettled (i : Input) : Prop where
  required : .bool i.required.truthy = i.required
  readOnly : .bool i.readOnly.truthy = i.readOnly
  entry : i.entry.reloaded = i.entry

/-- All of a field but its default comes back as it is. -/
structure Field.IsSettled (field : Field) : Prop where
  dependsOn : field.dependsOn.orNull = field.dependsOn
  input : ∀ i, field.body = .input i → i.IsSettled

/-- All of a page but the defaults of its fields comes back as it is. -/
structure Page.IsSettled (page : Page) : Prop where
  fields : ∀ field ∈ page.fields, field.IsSettled
  summaryCheck : page.summaryCheck.orElse (.text "true") = page.summaryCheck
  defaultTarget : ∀ routing ∈ page.routing, routing.defaultTarget.orNull = routing.defaultTarget

/-- All of a form but the defaults of its fields comes back as it is. -/
def Form.IsSettled (form : Form) : Prop :=
  ∀ page ∈ form.pages, page.IsSettled

/-! ## What is read is settled -/

namespace Field

variable {field : Field} {document : Value}

/-- A flag that is read is a truth value. -/
theorem truthy_of_saved (kind : FieldKind) (id : Value) (entries : List (Atom × Value))
    {name : String} (hname : name ∈ ["required", "read_only", "multiple"]) :
    .bool (valueOf (savedAttributes kind id entries) name (.bool false)).truthy =
      valueOf (savedAttributes kind id entries) name (.bool false) := by
  simp only [List.mem_cons, List.not_mem_nil, or_false] at hname
  rcases hname with rfl | rfl | rfl <;> cases kind <;> rfl

/-- An entry that is read comes back as it is. -/
theorem reloaded_of_entryOf {kind : FieldKind} {id : Value} {entries : List (Atom × Value)}
    {entry : Entry} (h : entryOf kind (savedAttributes kind id entries) = .ok (some entry)) :
    entry.reloaded = entry := by
  cases kind with
  | title | readonly => cases h
  | text | textarea =>
      cases h
      rfl
  | select | radio | checkbox =>
      obtain ⟨items, _, heq⟩ := Result.map_eq_ok.1 h
      cases heq
      rfl
  | file =>
      obtain ⟨items, _, heq⟩ := Result.map_eq_ok.1 h
      cases heq
      have hmultiple := truthy_of_saved .file id entries (show "multiple" ∈ _ by simp)
      have hcapture : (valueOf (savedAttributes .file id entries) "capture_mode"
          (.text "none")).orElse (.text "none") =
            valueOf (savedAttributes .file id entries) "capture_mode" (.text "none") :=
        Value.orElse_orElse _ _
      simp only [Entry.reloaded, UploadSpec.reloaded, hmultiple, hcapture]

/-- A field that is read from a saved one is settled. -/
theorem isSettled_of_ofDocument (h : ofDocument document = .ok field) : field.IsSettled := by
  obtain ⟨kind, id, _, hbuild⟩ := exists_build_of_ofDocument h
  obtain ⟨_, _, _, _, hdepends, _, entry, hentry, hbody⟩ := build_eq_ok.1 hbuild
  refine ⟨?_, fun i hinput => ?_⟩
  · rw [hdepends]
    exact Value.orElse_orElse _ _
  · rw [hinput] at hbody
    rcases bodyOf_cases hbody with
      ⟨_, _, hother⟩ | ⟨_, _, hother, _⟩ | ⟨own, initial, rfl, _, _, hown⟩
    · cases hother
    · cases hother
    · cases hown
      exact
        { required := truthy_of_saved _ _ _ (by simp)
          readOnly := truthy_of_saved _ _ _ (by simp)
          entry := reloaded_of_entryOf hentry }

end Field

/-- A page that is read is settled. -/
theorem Page.isSettled_of_ofDocument {page : Page} {document : Value}
    (h : ofDocument document = .ok page) : page.IsSettled := by
  have hread := isReadFrom h
  refine ⟨fun field hfield => ?_, ?_, fun routing hrouting => ?_⟩
  · obtain ⟨_, items, _, _, hfields⟩ := hread.fields
    obtain ⟨item, _, hitem⟩ := Result.exists_mem_of_mem_results hfields hfield
    exact Field.isSettled_of_ofDocument hitem
  · obtain ⟨saved, _, hcheck⟩ := hread.summaryCheck
    rw [hcheck]
    exact Value.orElse_orElse saved _
  · obtain ⟨saved, _, hsaved⟩ := hread.routing
    rw [Option.mem_def.1 hrouting] at hsaved
    obtain ⟨target, _, htarget⟩ := (Routing.isReadFrom hsaved).defaultTarget
    rw [htarget]
    exact Value.orElse_orElse target _

namespace Form

variable {form : Form} {document : Value}

/-- A form that is read is settled. -/
theorem isSettled_of_ofDocument (h : ofDocument document = .ok form) : form.IsSettled := by
  intro page hpage
  obtain ⟨_, items, _, _, hpages⟩ := (isReadFrom h).pages
  obtain ⟨item, _, hitem⟩ := Result.exists_mem_of_mem_results hpages hpage
  exact Page.isSettled_of_ofDocument hitem

/-- The fields of a form that is read can be defined. -/
theorem isDefined_of_ofDocument (h : ofDocument document = .ok form) : form.IsDefined := by
  intro page hpage field hfield
  obtain ⟨_, items, _, _, hpages⟩ := (isReadFrom h).pages
  obtain ⟨item, _, hitem⟩ := Result.exists_mem_of_mem_results hpages hpage
  obtain ⟨_, saved, _, _, hfields⟩ := (Page.isReadFrom hitem).fields
  obtain ⟨own, _, hown⟩ := Result.exists_mem_of_mem_results hfields hfield
  exact Field.isDefined_of_ofDocument hown

end Form

/-! ## Settled forms keep their documents -/

/-- A settled input comes back with what becomes of its default. -/
theorem Input.IsSettled.reloaded_eq {i : Input} (h : i.IsSettled) :
    Body.reloaded (.input i) = .input { i with initial := i.initial.reloaded } := by
  simp only [Body.reloaded, h.required, h.readOnly, h.entry]

namespace Field

variable {field : Field}

/-- What is saved of a settled field is saved of what it becomes. -/
theorem IsSettled.toDocument_reloaded (h : field.IsSettled) :
    field.reloaded.toDocument = field.toDocument := by
  obtain ⟨hdepends, hinput⟩ := h
  obtain ⟨id, title, dependsOn, showWhen, body⟩ := field
  cases body with
  | title => simp [reloaded, toDocument, hdepends, Body.reloaded]
  | readonly initial =>
      simp [reloaded, toDocument, hdepends, Body.reloaded, bodyEntries, kind, Body.kind]
  | input i =>
      simp only [reloaded, toDocument, hdepends, (hinput i rfl).reloaded_eq, bodyEntries, kind,
        Body.kind, Default.isGiven_reloaded, Default.toAnswer_reloaded]

/-- A settled field comes back as it was when its default describes no file. -/
theorem IsSettled.reloaded_eq (h : field.IsSettled)
    (hinitial : field.initial.describesFile = false) :
    field.reloaded = field := by
  obtain ⟨hdepends, hinput⟩ := h
  obtain ⟨id, title, dependsOn, showWhen, body⟩ := field
  cases body with
  | title => simp only [reloaded, hdepends, Body.reloaded]
  | readonly initial =>
      have hkept : initial.reloaded = initial := Default.reloaded_eq hinitial
      simp only [reloaded, hdepends, Body.reloaded, hkept]
  | input i =>
      have hkept : i.initial.reloaded = i.initial := Default.reloaded_eq hinitial
      simp only [reloaded, hdepends, (hinput i rfl).reloaded_eq, hkept]

end Field

/-- The routing of a settled page comes back as it was. -/
theorem Page.IsSettled.routing_reloaded {page : Page} (h : page.IsSettled) :
    page.routing.map Routing.reloaded = page.routing := by
  cases hrouting : page.routing with
  | none => rfl
  | some routing =>
      have hdefault := h.defaultTarget routing hrouting
      simp only [Option.map_some, Routing.reloaded, hdefault]

/-- What is saved of a settled page is saved of what it becomes. -/
theorem Page.IsSettled.toDocument_reloaded {page : Page} (h : page.IsSettled) :
    page.reloaded.toDocument = page.toDocument := by
  have hfields : (page.fields.map Field.reloaded).map Field.toDocument =
      page.fields.map Field.toDocument := by
    rw [List.map_map]
    exact List.map_congr_left fun field hfield => (h.fields field hfield).toDocument_reloaded
  simp only [toDocument, reloaded, hfields, h.summaryCheck, h.routing_reloaded]

/-- A settled page comes back as it was when no default of its fields describes a file. -/
theorem Page.IsSettled.reloaded_eq {page : Page} (h : page.IsSettled)
    (hinitial : ∀ field ∈ page.fields, field.initial.describesFile = false) :
    page.reloaded = page := by
  have hfields : page.fields.map Field.reloaded = page.fields :=
    (List.map_congr_left fun field hfield =>
      (h.fields field hfield).reloaded_eq (hinitial field hfield)).trans (List.map_id' page.fields)
  simp only [reloaded, hfields, h.summaryCheck, h.routing_reloaded]

namespace Form

variable {form : Form}

/-- What is saved of a settled form is saved of what it becomes. -/
theorem IsSettled.toDocument_reloaded (h : form.IsSettled) :
    form.reloaded.toDocument = form.toDocument := by
  have hpages : (form.pages.map Page.reloaded).map Page.toDocument =
      form.pages.map Page.toDocument := by
    rw [List.map_map]
    exact List.map_congr_left fun page hpage => (h page hpage).toDocument_reloaded
  simp only [toDocument, reloaded, hpages]

/-- A settled form comes back as it was when no default of its fields describes a file. -/
theorem IsSettled.reloaded_eq (h : form.IsSettled)
    (hinitial : ∀ page ∈ form.pages, ∀ field ∈ page.fields,
      field.initial.describesFile = false) :
    form.reloaded = form := by
  have hpages : form.pages.map Page.reloaded = form.pages :=
    (List.map_congr_left fun page hpage =>
      (h page hpage).reloaded_eq (hinitial page hpage)).trans (List.map_id' form.pages)
  simp only [reloaded, hpages]

end Form

end PagedForm
