import PagedForm.Form.Compare
import PagedForm.Proofs.Form.Reloaded
import PagedForm.Proofs.Form.TypedEdits

/-!
# Which forms come back as they were

Saving a form and reading it again replaces an empty dependency, capture mode, summary check and
default target, and turns a described file into a record. A typed form without any of these comes
back as it was, and a form with one of them comes back as another form.
-/

namespace PagedForm

/-- The file is described by its parts, and not by a record. -/
def FileItem.isDescribed : FileItem → Bool
  | .described _ => true
  | .record _ => false

/-- The default holds a file that is described by its parts. -/
def Default.describesFile : Default → Bool
  | .file item => item.isDescribed
  | .files items => items.any FileItem.isDescribed
  | _ => false

/-- Nothing of the field is replaced when it is saved and read again. -/
structure Field.IsKept (field : Field) : Prop where
  dependsOn : field.dependsOn ≠ .text ""
  captureMode : ∀ spec ∈ field.upload?, spec.captureMode ≠ .text ""
  initial : field.initial.describesFile = false

/-- Nothing of the page is replaced when it is saved and read again. -/
structure Page.IsKept (page : Page) : Prop where
  fields : ∀ field ∈ page.fields, field.IsKept
  summaryCheck : page.summaryCheck ≠ .text ""
  defaultTarget : ∀ routing ∈ page.routing, routing.defaultTarget ≠ .text ""

/-- Nothing of the form is replaced when it is saved and read again. -/
def Form.IsKept (form : Form) : Prop :=
  ∀ page ∈ form.pages, page.IsKept

/-! ## What is kept comes back -/

/-- A text that is not empty is the first choice. -/
theorem Value.orElse_text {s : String} (h : text s ≠ text "") (other : Value) :
    (text s).orElse other = text s := by
  have hgiven : s ≠ "" := fun hempty => h (by rw [hempty])
  exact orElse_of_truthy (by simpa using hgiven)

/-- An optional text that is not empty comes back. -/
theorem Value.orNull_of_optionalText {value : Value}
    (htyped : AttributeType.optionalText.Admits value) (h : value ≠ .text "") :
    value.orNull = value := by
  rcases htyped with rfl | ⟨s, rfl⟩
  · rfl
  · exact orElse_text h .null

/-- A file that is not described comes back. -/
theorem FileItem.reloaded_eq {item : FileItem} (h : item.isDescribed = false) :
    item.reloaded = item := by
  cases item with
  | described info => cases h
  | record entries => rfl

/-- A default without described files comes back. -/
theorem Default.reloaded_eq {initial : Default} (h : initial.describesFile = false) :
    initial.reloaded = initial := by
  cases initial with
  | absent | text | choices => rfl
  | file item => exact congrArg file (FileItem.reloaded_eq h)
  | files items =>
      have hitems : ∀ item ∈ items, item.reloaded = item := by
        intro item hitem
        exact FileItem.reloaded_eq (by simpa using List.any_eq_false.1 h item hitem)
      exact congrArg files ((List.map_congr_left hitems).trans (List.map_id' items))

/-- An entry with attributes of their types comes back unless its capture mode is empty. -/
theorem Entry.reloaded_eq {entry : Entry} (htyped : Table.IsTyped entry.attributes)
    (h : ∀ spec, entry = .file spec → spec.captureMode ≠ .text "") : entry.reloaded = entry := by
  cases entry with
  | text | textarea | select | radio | checkbox => rfl
  | file spec =>
      obtain ⟨_, _, ⟨b, hmultiple⟩, ⟨s, hcapture⟩⟩ := UploadSpec.isTyped_of_attributes htyped
      obtain ⟨acceptedTypes, maxSize, multiple, captureMode⟩ := spec
      subst hmultiple hcapture
      have hkept : (Value.text s).orElse (.text "none") = .text s :=
        Value.orElse_text (h _ rfl) (.text "none")
      simp [reloaded, UploadSpec.reloaded, hkept, Value.truthy]

/-- A typed field of which nothing is replaced comes back. -/
theorem Field.IsTyped.reloaded_eq {field : Field} (htyped : field.IsTyped) (h : field.IsKept) :
    field.reloaded = field := by
  obtain ⟨_, _, hdepends, _, hinput⟩ := isTyped_iff.1 htyped
  obtain ⟨id, title, dependsOn, showWhen, body⟩ := field
  have hdependsOn : dependsOn.orNull = dependsOn :=
    Value.orNull_of_optionalText hdepends h.dependsOn
  have hbody : body.reloaded = body := by
    cases body with
    | title => rfl
    | readonly initial => exact congrArg Body.readonly (Default.reloaded_eq h.initial)
    | input i =>
        obtain ⟨required, readOnly, initial, entry⟩ := i
        obtain ⟨⟨required, rfl⟩, ⟨readOnly, rfl⟩, hentry⟩ := hinput _ rfl
        have hinitial : initial.reloaded = initial := Default.reloaded_eq h.initial
        have hkept : entry.reloaded = entry := by
          refine Entry.reloaded_eq hentry fun spec hspec => h.captureMode spec ?_
          rw [hspec]
          rfl
        simp [Body.reloaded, hinitial, hkept, Value.truthy]
  simp [Field.reloaded, hdependsOn, hbody]

/-- A typed page of which nothing is replaced comes back. -/
theorem Page.IsTyped.reloaded_eq {page : Page} (htyped : page.IsTyped) (h : page.IsKept) :
    page.reloaded = page := by
  have hfields : page.fields.map Field.reloaded = page.fields :=
    (List.map_congr_left fun field hfield =>
      (htyped.fields field hfield).reloaded_eq (h.fields field hfield)).trans
      (List.map_id' page.fields)
  have hcheck : page.summaryCheck.orElse (.text "true") = page.summaryCheck := by
    obtain ⟨s, hs⟩ := htyped.summaryCheck
    have hgiven := h.summaryCheck
    rw [hs] at hgiven ⊢
    exact Value.orElse_text hgiven (.text "true")
  have hrouting : page.routing.map Routing.reloaded = page.routing := by
    cases hfound : page.routing with
    | none => rfl
    | some routing =>
        have hdefault : routing.defaultTarget.orNull = routing.defaultTarget :=
          Value.orNull_of_optionalText (htyped.routing routing hfound).default
            (h.defaultTarget routing hfound)
        simp [Routing.reloaded, hdefault]
  simp [reloaded, hfields, hcheck, hrouting]

/-- A typed form of which nothing is replaced comes back. -/
theorem Form.IsTyped.reloaded_eq {form : Form} (htyped : form.IsTyped) (h : form.IsKept) :
    form.reloaded = form := by
  have hpages : form.pages.map Page.reloaded = form.pages :=
    (List.map_congr_left fun page hpage =>
      (htyped.pages page hpage).reloaded_eq (h page hpage)).trans (List.map_id' form.pages)
  simp [reloaded, hpages]

/-! ## What comes back was kept -/

/-- Lists whose items are related one by one, when one list comes from the other. -/
theorem allPairs_map {α : Type} {test : α → α → Bool} {change : α → α} {items : List α} :
    allPairs test (items.map change) items = true ↔
      ∀ item ∈ items, test (change item) item = true := by
  induction items with
  | nil => simp [allPairs]
  | cons item rest ih => simp [allPairs, ih]

/-- Every entry of a record has one like it in a record that is like it. -/
theorem Value.exists_alike {entries others : List (Atom × Value)}
    (h : alikeEntries entries others = true) {key : Atom} {value : Value}
    (hentry : (key, value) ∈ entries) :
    ∃ other, find? key others = some other ∧ alike value other = true := by
  induction entries with
  | nil => cases hentry
  | cons first rest ih =>
      obtain ⟨k, v⟩ := first
      rw [alikeEntries, Bool.and_eq_true] at h
      rcases List.mem_cons.1 hentry with heq | hrest
      · cases heq
        have hfirst := h.1
        split at hfirst
        · next other hother => exact ⟨other, hother, hfirst⟩
        · cases hfirst
      · exact ih h.2 hrest

/-- Fields that are the same have like attributes. -/
theorem Field.alike_of_same {a b : Field} (h : a.same b = true) (name : String)
    {value other : Value} (hvalue : (name, value) ∈ a.attributes)
    (hother : b.attributes.find? name = some other) : value.alike other = true := by
  have hrecords := (Bool.and_eq_true_iff.1 (Bool.and_eq_true_iff.1 h).2).2
  have hentry : (Atom.text name, value) ∈
      a.attributes.map fun entry => (Atom.text entry.1, entry.2) :=
    List.mem_map.2 ⟨_, hvalue, rfl⟩
  obtain ⟨found, hfound, halike⟩ := Value.exists_alike hrecords hentry
  rw [Value.find?_fields, hother] at hfound
  cases hfound
  exact halike

/-- A file that comes back like itself was not described. -/
theorem FileItem.isDescribed_of_alike {item : FileItem}
    (h : item.reloaded.toValue.alike item.toValue = true) : item.isDescribed = false := by
  cases item with
  | described info => exact absurd h (by simp [reloaded, toValue, FileInfo.described, Value.alike])
  | record entries => rfl

/-- A default that comes back like itself describes no file. -/
theorem Default.describesFile_of_alike {initial : Default}
    (h : initial.reloaded.toValue.alike initial.toValue = true) :
    initial.describesFile = false := by
  cases initial with
  | absent | text | choices => rfl
  | file item => exact FileItem.isDescribed_of_alike h
  | files items =>
      have hitems : Value.alikeItems ((items.map FileItem.reloaded).map FileItem.toValue)
          (items.map FileItem.toValue) = true := h
      clear h
      show items.any FileItem.isDescribed = false
      induction items with
      | nil => rfl
      | cons item rest ih =>
          obtain ⟨hitem, hrest⟩ := Bool.and_eq_true_iff.1 hitems
          rw [List.any_cons, FileItem.isDescribed_of_alike hitem, ih hrest]
          rfl

/-- Of a field that comes back as the same nothing is replaced. -/
theorem Field.isKept_of_same {field : Field} (h : field.reloaded.same field = true) :
    field.IsKept := by
  refine ⟨?_, ?_, ?_⟩
  · intro hempty
    have halike : field.dependsOn.orNull.alike field.dependsOn = true :=
      alike_of_same h "depends_on" (by simp [attributes, reloaded]) rfl
    rw [hempty] at halike
    cases halike
  · intro spec hspec hempty
    obtain ⟨required, readOnly, initial, hbody⟩ := upload?_eq_some.1 hspec
    have halike : (spec.captureMode.orElse (.text "none")).alike spec.captureMode = true :=
      alike_of_same h "capture_mode"
        (by simp [attributes, ownAttributes, reloaded, hbody, Body.reloaded, Entry.reloaded,
          UploadSpec.reloaded])
        (by simp [attributes, ownAttributes, hbody, Table.find?])
    rw [hempty] at halike
    cases halike
  · obtain ⟨id, title, dependsOn, showWhen, body⟩ := field
    cases body with
    | title => rfl
    | readonly initial =>
        refine Default.describesFile_of_alike (alike_of_same h "default_value" ?_ rfl)
        exact List.mem_append_right _ List.mem_cons_self
    | input i =>
        refine Default.describesFile_of_alike (alike_of_same h "default_value" ?_ rfl)
        rw [attributes, ownAttributes_of_input rfl]
        have hown : ("default_value", i.initial.reloaded.toValue) ∈
            [("required", .bool i.required.truthy), ("read_only", .bool i.readOnly.truthy),
             ("default_value", i.initial.reloaded.toValue)] := by simp
        exact List.mem_append_right _ (List.mem_append_left _ hown)

/-- Of a page that comes back as the same nothing is replaced. -/
theorem Page.isKept_of_same {page : Page} (h : page.reloaded.same page = true) :
    page.IsKept := by
  simp only [same, Bool.and_eq_true] at h
  obtain ⟨⟨⟨⟨⟨⟨_, _⟩, _⟩, hfields⟩, _⟩, hcheck⟩, hrouting⟩ := h
  refine ⟨?_, ?_, ?_⟩
  · exact fun field hfield => Field.isKept_of_same (allPairs_map.1 hfields field hfield)
  · intro hempty
    have halike : (page.summaryCheck.orElse (.text "true")).alike page.summaryCheck = true :=
      hcheck
    rw [hempty] at halike
    cases halike
  · intro routing hfound hempty
    have hsome : page.routing = some routing := hfound
    rw [routing_reloaded, hsome] at hrouting
    simp only [Option.map_some, Routing.same, Bool.and_eq_true] at hrouting
    have halike : routing.defaultTarget.orNull.alike routing.defaultTarget = true := hrouting.2
    rw [hempty] at halike
    cases halike

/-- Of a form that comes back as the same nothing is replaced. -/
theorem Form.isKept_of_same {form : Form} (h : form.reloaded.same form = true) :
    form.IsKept := by
  simp only [same, Bool.and_eq_true] at h
  obtain ⟨⟨⟨⟨⟨_, _⟩, hpages⟩, _⟩, _⟩, _⟩ := h
  exact fun page hpage => Page.isKept_of_same (allPairs_map.1 hpages page hpage)

/-! ## Edited forms -/

/-- Nothing of a page that is added is replaced. -/
theorem Page.isKept_numbered (number : Nat) : (numbered number).IsKept where
  fields := fun field hfield => by cases hfield
  summaryCheck := by simp [numbered]
  defaultTarget := fun routing hrouting => by cases hrouting

namespace Form

/-- A form that typed edits make of a new one can be saved and read again. It comes back as it was
when nothing of it is replaced, and as another form otherwise. -/
theorem edited_form_kept_iff {name : String} {edits : List Edit} {form : Form}
    (htyped : ∀ e ∈ edits, e.IsTyped)
    (hedits : edits.foldlM edit (new (.text name)) = .ok form) :
    ∃ loaded, ofDocument form.toDocument = .ok loaded ∧
      (form.IsKept → loaded = form) ∧ (¬ form.IsKept → loaded.same form = false) := by
  have hform : form.IsTyped := (isTyped_new name).edits htyped hedits
  refine ⟨form.reloaded, ofDocument_toDocument hform.isDefined, hform.reloaded_eq, ?_⟩
  intro hreplaced
  cases hsame : form.reloaded.same form with
  | false => rfl
  | true => exact absurd (isKept_of_same hsame) hreplaced

/-- A new form to which a page was added comes back as it was. -/
theorem edited_form_kept_added :
    Edit.IsTyped .addPage ∧
      ∃ form, [Edit.addPage].foldlM edit (new (.text newName)) = .ok form ∧
        ofDocument form.toDocument = .ok form := by
  have htyped : ∀ e ∈ [Edit.addPage], e.IsTyped := List.forall_mem_singleton.2 trivial
  have hedits : [Edit.addPage].foldlM edit (new (.text newName)) =
      .ok { new (.text newName) with pages := [.numbered 1, .numbered 2] } :=
    rfl
  obtain ⟨loaded, hloaded, hkept, _⟩ := edited_form_kept_iff htyped hedits
  have hform := hkept <| List.forall_mem_cons.2
    ⟨Page.isKept_numbered 1, List.forall_mem_singleton.2 (Page.isKept_numbered 2)⟩
  exact ⟨trivial, _, hedits, by rw [hloaded, hform]⟩

/-- The edit that empties the summary check of the first page. -/
def emptyingEdit : Edit :=
  .updatePage 0 ⟨[("summary_check_expression", .text "")], none⟩

/-- The new form after its summary check was emptied. -/
def emptiedForm : Form :=
  { new (.text newName) with pages := [{ Page.numbered 1 with summaryCheck := .text "" }] }

/-- A new form whose summary check was emptied comes back with another summary check. -/
theorem edited_form_not_kept_emptied :
    emptyingEdit.IsTyped ∧
      [emptyingEdit].foldlM edit (new (.text newName)) = .ok emptiedForm ∧
      ∃ loaded, ofDocument emptiedForm.toDocument = .ok loaded ∧
        loaded.pages.map Page.summaryCheck = [.text "true"] ∧
        loaded.same emptiedForm = false :=
  ⟨⟨List.forall_mem_singleton.2 ⟨_, rfl⟩, fun _ h => by cases h⟩, rfl, emptiedForm.reloaded, rfl,
    rfl, rfl⟩

end Form

end PagedForm
