import PagedForm.Proofs.Field.Shape
import PagedForm.Proofs.Form.Settled
import PagedForm.Proofs.Json.Reading

/-!
# Documents in JSON

A form that is read from a value that JSON holds is saved as another one: what it takes from the
value are parts of it, what it adds are texts, truth values and empty lists, and the keys under
which it is saved differ from each other. In particular no default describes a file.
-/

namespace PagedForm

namespace Value

variable {value : Value} {key : String}

/-- What is found in entries is the value of one of them. -/
theorem exists_mem_of_find? {key : Atom} {entries : List (Atom × Value)} {found : Value}
    (h : find? key entries = some found) : ∃ entry ∈ entries, entry.2 = found := by
  induction entries with
  | nil => cases h
  | cons first rest ih =>
      rw [find?] at h
      split at h
      · exact ⟨first, List.mem_cons_self, Option.some.inj h⟩
      · obtain ⟨entry, hentry, heq⟩ := ih h
        exact ⟨entry, List.mem_cons_of_mem _ hentry, heq⟩

/-- The values of a record that JSON holds are held too. -/
theorem IsJson.of_find? {entries : List (Atom × Value)} (h : (Value.record entries).IsJson)
    {key : Atom} {found : Value} (hfound : find? key entries = some found) : found.IsJson := by
  obtain ⟨entry, hentry, rfl⟩ := exists_mem_of_find? hfound
  cases h with
  | record _ _ hvalues => exact hvalues entry hentry

/-- A value that is required of one that JSON holds is held too. -/
theorem IsJson.of_require (h : value.IsJson) {found : Value}
    (hfound : value.require key = .ok found) : found.IsJson := by
  unfold require at hfound
  split at hfound
  · split at hfound
    · next hentry =>
        cases hfound
        exact h.of_find? hentry
    · cases hfound
  · cases hfound

/-- What a value that JSON holds gives is held too, when the usual value is. -/
theorem IsJson.of_gives (h : value.IsJson) {usual given : Value} (husual : usual.IsJson)
    (hgiven : value.Gives key usual given) : given.IsJson := by
  obtain ⟨found, hfound, rfl⟩ := hgiven
  unfold look at hfound
  split at hfound
  · cases hfound
    next entries =>
      cases hentry : find? (.text key) entries with
      | none => exact husual
      | some own => exact h.of_find? hentry
  · cases hfound

/-- JSON holds the first choice and the second, so it holds the one that is made. -/
theorem IsJson.orElse (h : value.IsJson) {other : Value} (hother : other.IsJson) :
    (value.orElse other).IsJson := by
  unfold Value.orElse
  split
  · exact h
  · exact hother

/-- The elements of a value that JSON holds are held too. -/
theorem IsJson.of_elements (h : value.IsJson) {items : List Value}
    (hitems : value.elements = .ok items) : ∀ item ∈ items, item.IsJson := by
  cases h with
  | list hall =>
      cases hitems
      exact hall
  | record hkeys _ _ =>
      cases hitems
      refine List.forall_mem_map.2 fun entry hentry => ?_
      obtain ⟨key, hkey⟩ := hkeys entry hentry
      rw [hkey]
      exact .atom trivial
  | @atom a ha =>
      cases a with
      | text s =>
          cases hitems
          exact List.forall_mem_map.2 fun _ _ => .atom trivial
      | null | bool | int | float => cases hitems

/-- A record of fields with different names is held by JSON when its values are. -/
theorem isJson_fields {entries : Table Value} (hkeys : entries.keys.Nodup)
    (h : ∀ entry ∈ entries, entry.2.IsJson) : (fields entries).IsJson := by
  refine .record (List.forall_mem_map.2 fun entry _ => ⟨entry.1, rfl⟩) ?_
    (List.forall_mem_map.2 h)
  have hall : (entries.map fun entry => (Atom.text entry.1, entry.2)).map Prod.fst =
      entries.keys.map Atom.text := by
    simp [Table.keys]
  rw [hall]
  exact hkeys.map fun _ _ heq => Atom.text.inj heq

/-- A text is held by JSON. -/
theorem isJson_text (s : String) : (text s).IsJson := .atom trivial

/-- A truth value is held by JSON. -/
theorem isJson_bool (b : Bool) : (bool b).IsJson := .atom trivial

/-- Nothing is held by JSON. -/
theorem isJson_null : null.IsJson := .atom trivial

/-- An empty list is held by JSON. -/
theorem isJson_nil : (list []).IsJson := .list (List.forall_mem_nil _)

end Value

/-! ## Defaults -/

/-- A file that JSON holds is a record, and as an answer it is the same. -/
theorem FileItem.of_isJson {item : FileItem} (h : item.toValue.IsJson) :
    item.isDescribed = false ∧ item.toAnswer = item.toValue := by
  cases item with
  | described info => cases h
  | record entries => exact ⟨rfl, rfl⟩

/-- A default that JSON holds describes no file, and as an answer it is the same. -/
theorem Default.of_isJson {initial : Default} (h : initial.toValue.IsJson) :
    initial.describesFile = false ∧ initial.toAnswer = initial.toValue := by
  cases initial with
  | absent | text | choices => exact ⟨rfl, rfl⟩
  | file item => exact FileItem.of_isJson h
  | files items =>
      have hitems : ∀ item ∈ items, item.toValue.IsJson := by
        cases h with
        | list hall => exact List.forall_mem_map.1 hall
      constructor
      · refine List.any_eq_false.2 fun item hitem => ?_
        simp [(FileItem.of_isJson (hitems item hitem)).1]
      · exact congrArg Value.list (List.map_congr_left fun item hitem =>
          (FileItem.of_isJson (hitems item hitem)).2)

/-! ## Fields -/

namespace Field

variable {field : Field}

/-- A value that is saved only on a condition is held by JSON when it is held anyway. -/
theorem isJson_entryIf {condition : Bool} {name : String} {value : Value} (h : value.IsJson) :
    ∀ entry ∈ entryIf condition name value, entry.2.IsJson := by
  unfold entryIf
  split
  · exact List.forall_mem_singleton.2 h
  · exact List.forall_mem_nil _

/-- A value that is saved only on a condition has no other key. -/
theorem keys_entryIf (condition : Bool) (name : String) (value : Value) :
    (Table.keys (entryIf condition name value)).Sublist [name] := by
  unfold entryIf
  split
  · exact List.Sublist.refl [name]
  · exact List.nil_sublist [name]

/-- The keys of what is saved of an entry, in the order in which they are saved. -/
def entryKeys : List String :=
  ["placeholder", "options", "acceptedFileTypes", "maxFileSize", "multiple", "captureMode"]

/-- The keys that depend on the kind of a field are saved in this order. -/
theorem keys_bodyEntries (field : Field) :
    (Table.keys field.bodyEntries).Sublist
      (["required", "readOnly"] ++ ["defaultValue"] ++ entryKeys) := by
  cases field using Field.bodyCases with
  | title => exact List.nil_sublist _
  | readonly _ _ _ _ initial => exact (keys_entryIf _ _ _).trans (by decide)
  | input _ _ _ _ required readOnly initial entry =>
      simp only [bodyEntries, Table.keys, List.map_append]
      refine .append (.append (.refl ["required", "readOnly"]) (keys_entryIf _ _ _)) ?_
      cases entry with
      | text | textarea => exact (keys_entryIf _ _ _).trans (by decide)
      | select | radio | checkbox =>
          exact (by decide : ["options"].Sublist entryKeys)
      | file spec =>
          simp only [List.map_append]
          exact (List.Sublist.append (.append (.refl ["acceptedFileTypes"]) (keys_entryIf _ _ _))
            (.refl ["multiple", "captureMode"])).trans (by decide)

/-- A field is saved under different keys. -/
theorem nodup_keys_savedEntries (field : Field) : field.savedEntries.keys.Nodup := by
  have hkeys : field.savedEntries.keys.Sublist (["id", "type", "title"] ++
      (["required", "readOnly"] ++ ["defaultValue"] ++ entryKeys) ++ ["dependsOn"] ++
        ["showWhen"]) := by
    simp only [savedEntries, Table.keys, List.map_append]
    exact .append (.append (.append (.refl ["id", "type", "title"]) (keys_bodyEntries field))
      (keys_entryIf _ _ _)) (keys_entryIf _ _ _)
  exact List.Nodup.sublist hkeys (by decide)

/-- What a saved field gives for its attributes is held by JSON when the field is. -/
theorem isJson_savedAttributes {id : Value} {entries : List (Atom × Value)} (hid : id.IsJson)
    (h : (Value.record entries).IsJson) (kind : FieldKind) :
    ∀ entry ∈ savedAttributes kind id entries, entry.2.IsJson := by
  have hgiven (name : String) {usual : Value} (husual : usual.IsJson) :
      ((Value.find? (.text name) entries).getD usual).IsJson := by
    cases hfind : Value.find? (.text name) entries with
    | none => exact husual
    | some found => exact h.of_find? hfind
  have hif {condition : Prop} [Decidable condition] {attrs : Table Value}
      (hattrs : ∀ entry ∈ attrs, entry.2.IsJson) :
      ∀ entry ∈ (if condition then attrs else []), entry.2.IsJson := by
    split
    · exact hattrs
    · exact List.forall_mem_nil _
  have hnull (name : String) := hgiven name Value.isJson_null
  unfold savedAttributes
  simp only [List.forall_mem_append]
  refine ⟨⟨⟨⟨⟨?_, hif ?_⟩, ?_⟩, hif ?_⟩, hif ?_⟩, hif ?_⟩
  · simp only [List.forall_mem_cons]
    exact ⟨hid, hgiven _ (Value.isJson_text ""), (hnull _).orElse Value.isJson_null, hnull _,
      List.forall_mem_nil _⟩
  · simp only [List.forall_mem_cons]
    exact ⟨Value.isJson_bool _, Value.isJson_bool _, List.forall_mem_nil _⟩
  · split
    · exact List.forall_mem_nil _
    · exact List.forall_mem_singleton.2 (hnull _)
  · exact List.forall_mem_singleton.2 (hnull _)
  · exact List.forall_mem_singleton.2 ((hnull _).orElse Value.isJson_nil)
  · simp only [List.forall_mem_cons]
    exact ⟨(hnull _).orElse Value.isJson_nil, hnull _, Value.isJson_bool _,
      (hnull _).orElse (Value.isJson_text "none"), List.forall_mem_nil _⟩

variable {kind : FieldKind} {attrs : Table Value}

section

variable (hattrs : ∀ entry ∈ attrs, entry.2.IsJson)
include hattrs

/-- An attribute is held by JSON when all are and its usual value is. -/
theorem isJson_valueOf (name : String) {usual : Value} (husual : usual.IsJson) :
    (valueOf attrs name usual).IsJson := by
  unfold valueOf
  cases hfind : attrs.find? name with
  | none => exact husual
  | some value => exact hattrs _ (Table.mem_of_find? hfind)

/-- What is saved of the body of a field is held by JSON when its attributes are. -/
theorem isJson_bodyEntries {entry : Option Entry} {id : String}
    (hentry : entryOf kind attrs = .ok entry)
    (hbody : bodyOf kind entry id attrs = .ok field.body) :
    ∀ saved ∈ field.bodyEntries, saved.2.IsJson := by
  have hinitial {initial : Default}
      (hvalue : initial.toValue = valueOf attrs "default_value" .null) :
      initial.toAnswer.IsJson := by
    have hheld := isJson_valueOf hattrs "default_value" Value.isJson_null
    rw [← hvalue] at hheld
    rw [(Default.of_isJson hheld).2]
    exact hheld
  rcases bodyOf_cases hbody with
    ⟨_, _, htitle⟩ | ⟨initial, _, hreadonly, _, hvalue⟩ | ⟨e, initial, rfl, _, hvalue, hinput⟩
  · simp only [bodyEntries, htitle]
    exact List.forall_mem_nil _
  · simp only [bodyEntries, hreadonly]
    exact isJson_entryIf (hinitial hvalue)
  · simp only [bodyEntries, hinput, List.forall_mem_append, List.forall_mem_cons]
    refine ⟨⟨⟨?_, ?_, List.forall_mem_nil _⟩, isJson_entryIf (hinitial hvalue)⟩, ?_⟩
    · exact isJson_valueOf hattrs "required" (Value.isJson_bool false)
    · exact isJson_valueOf hattrs "read_only" (Value.isJson_bool false)
    · have hitems {name : String} {items : List Value}
          (hitems : (valueOf attrs name (.list [])).elements = .ok items) :
          (Value.list items).IsJson :=
        .list ((isJson_valueOf hattrs name Value.isJson_nil).of_elements hitems)
      cases kind with
      | title | readonly => cases hentry
      | text | textarea =>
          cases hentry
          exact isJson_entryIf (isJson_valueOf hattrs "placeholder" Value.isJson_null)
      | select | radio | checkbox =>
          obtain ⟨items, hoptions, heq⟩ := Result.map_eq_ok.1 hentry
          cases heq
          exact List.forall_mem_singleton.2 (hitems hoptions)
      | file =>
          obtain ⟨items, haccepted, heq⟩ := Result.map_eq_ok.1 hentry
          cases heq
          simp only [List.forall_mem_append, List.forall_mem_cons]
          exact ⟨⟨⟨hitems haccepted, List.forall_mem_nil _⟩,
            isJson_entryIf (isJson_valueOf hattrs "max_file_size" Value.isJson_null)⟩,
            isJson_valueOf hattrs "multiple" (Value.isJson_bool false),
            isJson_valueOf hattrs "capture_mode" (Value.isJson_text "none"),
            List.forall_mem_nil _⟩

/-- What is saved of a field is held by JSON when its attributes are. -/
theorem isJson_toDocument_of_build (h : build kind attrs = .ok field) :
    field.toDocument.IsJson := by
  obtain ⟨_, _, _, htitle, hdepends, hshow, entry, hentry, hbody⟩ := build_eq_ok.1 h
  refine Value.isJson_fields (nodup_keys_savedEntries field) ?_
  simp only [List.forall_mem_append]
  refine ⟨⟨⟨?_, isJson_bodyEntries hattrs hentry hbody⟩, isJson_entryIf ?_⟩, isJson_entryIf ?_⟩
  · simp only [List.forall_mem_cons]
    refine ⟨Value.isJson_text _, Value.isJson_text _, ?_, List.forall_mem_nil _⟩
    rw [htitle]
    exact isJson_valueOf hattrs "title" (Value.isJson_text "")
  · rw [hdepends]
    exact isJson_valueOf hattrs "depends_on" Value.isJson_null
  · rw [hshow]
    exact isJson_valueOf hattrs "show_when" Value.isJson_null

end

/-- A field that is read from what JSON holds is saved as something that JSON holds, and its default
describes no file. -/
theorem isJson_of_ofDocument {document : Value} (hdocument : document.IsJson)
    (h : ofDocument document = .ok field) :
    field.toDocument.IsJson ∧ field.initial.describesFile = false := by
  obtain ⟨kind, id, hid, hbuild⟩ := exists_build_of_ofDocument h
  have hentries : (Value.record (document.record?.getD [])).IsJson := by
    cases hdocument with
    | record hkeys hnodup hvalues => exact .record hkeys hnodup hvalues
    | atom | list => cases hid
  have hattrs := isJson_savedAttributes (hdocument.of_require hid) hentries
  refine ⟨isJson_toDocument_of_build (hattrs kind) hbuild, ?_⟩
  have hinitial := isJson_valueOf (hattrs kind) "default_value" Value.isJson_null
  rw [← initial_of_build hbuild] at hinitial
  exact (Default.of_isJson hinitial).1

end Field

/-! ## Routings, pages and forms -/

variable {document : Value} (hdocument : document.IsJson)
include hdocument

/-- What is read item by item from a list in a value that JSON holds is read from such values. -/
theorem exists_isJson_of_mem_results {α : Type} {read : Value → Result α} {key : String}
    {saved : Value} {items : List Value} {results : List α}
    (hsaved : document.Gives key (.list []) saved) (hitems : saved.elements = .ok items)
    (hresults : items.mapM read = .ok results) :
    ∀ result ∈ results, ∃ item, item.IsJson ∧ read item = .ok result := by
  intro result hresult
  obtain ⟨item, hitem, heq⟩ := Result.exists_mem_of_mem_results hresults hresult
  exact ⟨item, (hdocument.of_gives Value.isJson_nil hsaved).of_elements hitems item hitem, heq⟩

/-- A branch that is read from what JSON holds is saved as something that JSON holds. -/
theorem Branch.isJson_of_ofDocument {branch : Branch} (h : ofDocument document = .ok branch) :
    branch.toDocument.IsJson := by
  obtain ⟨hvalue, htarget⟩ := isReadFrom h
  refine Value.isJson_fields (show ["value", "nextStepName"].Nodup by decide) ?_
  simp only [List.forall_mem_cons]
  exact ⟨hdocument.of_require hvalue, hdocument.of_require htarget, List.forall_mem_nil _⟩

/-- A routing that is read from what JSON holds is saved as something that JSON holds. -/
theorem Routing.isJson_of_ofDocument {routing : Routing}
    (h : ofDocument document = .ok (some routing)) : routing.toDocument.IsJson := by
  obtain ⟨hfieldId, ⟨saved, items, hsaved, hitems, hbranches⟩, ⟨target, htarget, hdefault⟩⟩ :=
    isReadFrom h
  have hkeys : (Table.keys ([("fieldId", routing.fieldId),
      ("conditions", .list (routing.branches.map Branch.toDocument))] ++
      Field.entryIf routing.defaultTarget.truthy "defaultStepName"
        routing.defaultTarget)).Sublist (["fieldId", "conditions"] ++ ["defaultStepName"]) := by
    rw [Table.keys, List.map_append]
    exact .append (.refl ["fieldId", "conditions"]) (Field.keys_entryIf _ _ _)
  refine Value.isJson_fields (List.Nodup.sublist hkeys (by decide)) ?_
  simp only [List.forall_mem_append, List.forall_mem_cons]
  refine ⟨⟨hdocument.of_gives (Value.isJson_text "") hfieldId, ?_, List.forall_mem_nil _⟩,
    Field.isJson_entryIf ?_⟩
  · refine .list (List.forall_mem_map.2 fun branch hbranch => ?_)
    obtain ⟨item, hitem, heq⟩ :=
      exists_isJson_of_mem_results hdocument hsaved hitems hbranches branch hbranch
    exact Branch.isJson_of_ofDocument hitem heq
  · rw [hdefault]
    exact (hdocument.of_gives Value.isJson_null htarget).orElse Value.isJson_null

/-- A page that is read from what JSON holds is saved as something that JSON holds, and no default
of its fields describes a file. -/
theorem Page.isJson_of_ofDocument {page : Page} (h : ofDocument document = .ok page) :
    page.toDocument.IsJson ∧ ∀ field ∈ page.fields, field.initial.describesFile = false := by
  have hread := isReadFrom h
  have hfields : ∀ field ∈ page.fields,
      field.toDocument.IsJson ∧ field.initial.describesFile = false := by
    obtain ⟨saved, items, hsaved, hitems, hfields⟩ := hread.fields
    intro field hfield
    obtain ⟨item, hitem, heq⟩ :=
      exists_isJson_of_mem_results hdocument hsaved hitems hfields field hfield
    exact Field.isJson_of_ofDocument hitem heq
  have hcheck : page.summaryCheck.IsJson := by
    obtain ⟨saved, hsaved, hcheck⟩ := hread.summaryCheck
    rw [hcheck]
    exact (hdocument.of_gives Value.isJson_null hsaved).orElse (Value.isJson_text "true")
  have hshared : ∀ entry ∈ [("id", page.id), ("name", page.name),
      ("description", page.description), ("fields", .list (page.fields.map Field.toDocument)),
      ("actionName", page.actionName), ("summaryCheckExpression", page.summaryCheck)],
      entry.2.IsJson := by
    simp only [List.forall_mem_cons]
    exact ⟨hdocument.of_require hread.id, hdocument.of_gives (Value.isJson_text "") hread.name,
      hdocument.of_gives (Value.isJson_text "") hread.description,
      .list (List.forall_mem_map.2 fun field hfield => (hfields field hfield).1),
      hdocument.of_gives (Value.isJson_text "") hread.actionName, hcheck, List.forall_mem_nil _⟩
  refine ⟨?_, fun field hfield => (hfields field hfield).2⟩
  obtain ⟨saved, hsaved, hrouting⟩ := hread.routing
  unfold toDocument
  cases hown : page.routing with
  | none =>
      exact Value.isJson_fields (show ["id", "name", "description", "fields", "actionName",
        "summaryCheckExpression"].Nodup by decide) hshared
  | some routing =>
      rw [hown] at hrouting
      have hrule := Routing.isJson_of_ofDocument
        (hdocument.of_gives Value.isJson_null hsaved) hrouting
      exact Value.isJson_fields (show ["id", "name", "description", "fields", "actionName",
        "summaryCheckExpression", "navigationRule"].Nodup by decide)
        (List.forall_mem_append.2 ⟨hshared, List.forall_mem_singleton.2 hrule⟩)

/-- A form that is read from what JSON holds is saved as something that JSON holds, and no default
of its fields describes a file. -/
theorem Form.isJson_of_ofDocument {form : Form} (h : ofDocument document = .ok form) :
    form.toDocument.IsJson ∧ ∀ page ∈ form.pages, ∀ field ∈ page.fields,
      field.initial.describesFile = false := by
  have hread := isReadFrom h
  have hpages : ∀ page ∈ form.pages, page.toDocument.IsJson ∧
      ∀ field ∈ page.fields, field.initial.describesFile = false := by
    obtain ⟨saved, items, hsaved, hitems, hpages⟩ := hread.pages
    intro page hpage
    obtain ⟨item, hitem, heq⟩ :=
      exists_isJson_of_mem_results hdocument hsaved hitems hpages page hpage
    exact Page.isJson_of_ofDocument hitem heq
  refine ⟨Value.isJson_fields (show ["id", "name", "description", "steps", "created_at",
    "updated_at"].Nodup by decide) ?_, fun page hpage => (hpages page hpage).2⟩
  simp only [List.forall_mem_cons]
  exact ⟨hdocument.of_gives Value.isJson_null hread.id,
    hdocument.of_gives (Value.isJson_text "") hread.name,
    hdocument.of_gives (Value.isJson_text "") hread.description,
    .list (List.forall_mem_map.2 fun page hpage => (hpages page hpage).1),
    hdocument.of_gives Value.isJson_null hread.createdAt,
    hdocument.of_gives Value.isJson_null hread.updatedAt, List.forall_mem_nil _⟩

end PagedForm
