import PagedForm.Form.Edit

/-!
# What an edit does

An edit that succeeds changes one page or the list of pages, and each lemma here says once what the
edited page or form is. Later proofs about edits go through these lemmas and never open an edit.
-/

namespace PagedForm

namespace Page

variable {page other : Page}

/-- A page is revised when only known attributes are changed. -/
theorem revise_eq_ok {changes : PageChanges} (h : page.revise changes = .ok other) :
    other =
      { page with
        id := (changes.attributes.find? "id").getD page.id
        name := (changes.attributes.find? "name").getD page.name
        description := (changes.attributes.find? "description").getD page.description
        actionName := (changes.attributes.find? "action_name").getD page.actionName
        summaryCheck :=
          (changes.attributes.find? "summary_check_expression").getD page.summaryCheck
        routing := changes.routing.getD page.routing } := by
  unfold revise at h
  dsimp only at h
  split at h
  · cases h
  · split at h
    · cases h
    · exact (Except.ok.inj h).symm

/-- A field is added when its id is free, at some place of the page. -/
theorem addField_eq_ok {field : Field} {position : Option Int}
    (h : page.addField field position = .ok other) :
    page.fieldById? field.id = none ∧
      other = { page with
        fields := page.fields.insertIdx (insertIndex page.fields.length position) field } := by
  unfold addField at h
  split at h
  · cases h
  · next hfree =>
      split at h
      · cases h
      · exact ⟨by simpa using hfree, (Except.ok.inj h).symm⟩

/-- A field is revised like a new field with the changes written over its attributes. -/
theorem reviseField_eq_ok {field revised : Field} {id : String} {changes : Table Value} :
    reviseField field id changes = .ok revised ↔
      Field.build field.kind (field.attributes.merge changes) = .ok revised := by
  unfold reviseField Field.revise
  split
  · next hbuild => simp [hbuild]
  · rfl

/-- A field with an id is found at the first place where there is one. -/
theorem fieldIndex_eq_ok {id : String} {place : Nat} :
    page.fieldIndex id = .ok place ↔ page.fieldIndex? id = some place := by
  unfold fieldIndex
  cases page.fieldIndex? id <;> simp

/-- At the place where a field is found by an id there is the field that is found by it. -/
theorem fieldById?_of_fieldIndex? {id : String} {place : Nat}
    (h : page.fieldIndex? id = some place) :
    ∃ field, page.fields[place]? = some field ∧ page.fieldById? id = some field ∧
      field.id = id := by
  obtain ⟨hplace, hid, hbefore⟩ := List.findIdx?_eq_some_iff_getElem.1 h
  refine ⟨_, List.getElem?_eq_getElem hplace, ?_, of_decide_eq_true hid⟩
  exact List.find?_eq_some_iff_getElem.2 ⟨hid, place, hplace, rfl, by simpa using hbefore⟩

/-- A field is updated in its place: it is converted first if a kind is given, its new id has to be
free, it is revised, and what pointed at it follows. -/
theorem updateField_eq_ok {id : String} {changes : Table Value}
    (h : page.updateField id changes = .ok other) :
    ∃ (place : Nat) (field converted revised : Field),
      page.fieldIndex? id = some place ∧ page.fields[place]? = some field ∧ field.id = id ∧
      (changes.find? "kind" = none ∧ converted = field ∨
        ∃ value kind, changes.find? "kind" = some value ∧ FieldKind.ofValue value = .ok kind ∧
          converted = field.convert kind) ∧
      (((changes.find? "id").getD (.text id)).isText id = true ∨
        page.field? ((changes.find? "id").getD (.text id)) = none) ∧
      Field.build converted.kind (converted.attributes.merge (changes.erase "kind")) =
        .ok revised ∧
      other = page.replaceField place id revised := by
  unfold updateField at h
  obtain ⟨place, hplace, h⟩ := Result.bind_eq_ok.1 h
  rw [fieldIndex_eq_ok] at hplace
  dsimp only at h
  split at h
  · cases h
  · next field hfield =>
      have hid : field.id = id := by
        obtain ⟨found, hfound, _, hid⟩ := fieldById?_of_fieldIndex? hplace
        rw [hfield] at hfound
        exact Option.some.inj hfound ▸ hid
      generalize (changes.find? "id").getD (.text id) = newId at h ⊢
      -- What follows the conversion is the same with and without one.
      have hrest (converted : Field) (h : (do
          if !newId.isText id && (page.field? newId).isSome then
            throw (.edit (.takenId newId page.name))
          let field ← reviseField converted id (changes.erase "kind")
          pure (page.replaceField place id field) : Result Page) = .ok other) :
          (newId.isText id = true ∨ page.field? newId = none) ∧
          ∃ revised, Field.build converted.kind
              (converted.attributes.merge (changes.erase "kind")) = .ok revised ∧
            other = page.replaceField place id revised := by
        by_cases htaken : (!newId.isText id && (page.field? newId).isSome) = true
        · rw [if_pos htaken] at h
          cases h
        · rw [if_neg htaken] at h
          obtain ⟨revised, hrevised, h⟩ := Result.bind_eq_ok.1 h
          have hfree : newId.isText id = true ∨ page.field? newId = none := by
            cases hid : newId.isText id with
            | true => exact .inl rfl
            | false => exact .inr (by simpa [hid] using htaken)
          exact ⟨hfree, revised, reviseField_eq_ok.1 hrevised, (Except.ok.inj h).symm⟩
      split at h
      · next value hvalue =>
          obtain ⟨converted, hconverted, h⟩ := Result.bind_eq_ok.1 h
          obtain ⟨kind, hkind, rfl⟩ := Result.map_eq_ok.1 hconverted
          obtain ⟨hfree, revised, hrevised, heq⟩ := hrest _ h
          exact ⟨place, field, _, revised, hplace, hfield, hid,
            .inr ⟨value, kind, hvalue, hkind, rfl⟩, hfree, hrevised, heq⟩
      · next hnone =>
          obtain ⟨hfree, revised, hrevised, heq⟩ := hrest field h
          exact ⟨place, field, field, revised, hplace, hfield, hid, .inl ⟨hnone, rfl⟩, hfree,
            hrevised, heq⟩

/-- What holds of all fields of a page and of one that is put in the place of one of them holds
afterwards, if a field keeps it when its dependency follows the new id. -/
theorem forall_fields_of_replaceField {P : Field → Prop} (hfields : ∀ field ∈ page.fields, P field)
    (place : Nat) (old : String) {field : Field} (hfield : P field)
    (hredirect : ∀ field new, P field → P (redirect old new field)) :
    ∀ kept ∈ (page.replaceField place old field).fields, P kept := by
  have hset : ∀ kept ∈ page.fields.set place field, P kept := by
    intro kept hkept
    rcases List.mem_or_eq_of_mem_set hkept with hold | rfl
    · exact hfields kept hold
    · exact hfield
  unfold replaceField
  dsimp only
  split
  · exact hset
  · rw [List.forall_mem_map]
    exact fun kept hkept => hredirect kept field.id (hset kept hkept)

/-- The fields with an id are removed, with the dependencies on them and the routing by them. -/
theorem removeField_eq_ok {id : String} (h : page.removeField id = .ok other) :
    other = { page with
      fields := (page.fields.filter fun field => field.id ≠ id).map (release id)
      routing := if page.routesBy id then none else page.routing } := by
  unfold removeField at h
  obtain ⟨_, _, h⟩ := Result.bind_eq_ok.1 h
  exact (Except.ok.inj h).symm

/-- A field is moved between two places of the page. -/
theorem moveField_eq_ok {source target : Int} (h : page.moveField source target = .ok other) :
    ∃ field, page.fields[source.toNat]? = some field ∧ target.toNat < page.fields.length ∧
      other = { page with
        fields := (page.fields.eraseIdx source.toNat).insertIdx target.toNat field } := by
  unfold moveField at h
  dsimp only at h
  split at h
  · next hinside =>
      split at h
      · next field hfield =>
          exact ⟨field, hfield, by omega, (Except.ok.inj h).symm⟩
      · cases h
  · cases h

/-- What an edit makes of the page that it changes. The edits of the list of pages change none. -/
def edit (page : Page) : Edit → Result Page
  | .addPage | .removePage _ => .ok page
  | .updatePage _ changes => page.revise changes
  | .setRouting _ routing => .ok { page with routing := routing }
  | .addField _ field position => page.addField field position
  | .updateField _ id changes => do page.updateField (← page.idOf id) changes
  | .removeField _ id => do page.removeField (← page.idOf id)
  | .moveField _ source target => page.moveField source target

end Page

/-- The index of the page that an edit changes, if it is an edit of one. -/
def Edit.pageIndex? : Edit → Option Int
  | .addPage | .removePage _ => none
  | .updatePage index _ | .setRouting index _ | .addField index _ _ | .updateField index _ _
  | .removeField index _ | .moveField index _ _ => some index

namespace Form

variable {form other : Form}

/-- A page is found at its place. -/
theorem pageAt_natCast {index : Nat} {page : Page} (hpage : form.pages[index]? = some page) :
    form.pageAt index = .ok (index, page) := by
  unfold pageAt
  rw [if_neg (by omega), Int.toNat_natCast, hpage]

/-- A page that is found is in the place where it was found. -/
theorem pageAt_eq_ok {index : Int} {place : Nat} {page : Page}
    (h : form.pageAt index = .ok (place, page)) : form.pages[place]? = some page := by
  unfold pageAt at h
  split at h
  · cases h
  · split at h
    · next hpage =>
        cases h
        exact hpage
    · cases h

/-- An edit of a page puts the changed page in the place of the page. -/
theorem onPage_eq_ok {index : Int} {change : Page → Result Page}
    (h : form.onPage index change = .ok other) :
    ∃ (place : Nat) (page changed : Page), form.pageAt index = .ok (place, page) ∧
      change page = .ok changed ∧ other = { form with pages := form.pages.set place changed } := by
  unfold onPage at h
  obtain ⟨⟨place, page⟩, hpage, h⟩ := Result.bind_eq_ok.1 h
  obtain ⟨changed, hchanged, h⟩ := Result.bind_eq_ok.1 h
  exact ⟨place, page, changed, hpage, hchanged, (Except.ok.inj h).symm⟩

/-- A new page is added at the end. -/
theorem addPage_eq_ok (h : form.addPage = .ok other) :
    other = { form with pages := form.pages ++ [.numbered form.freeNumber] } := by
  unfold addPage at h
  dsimp only at h
  split at h
  · cases h
  · exact (Except.ok.inj h).symm

/-- A page is removed when another is left. -/
theorem removePage_eq_ok {index : Int} (h : form.removePage index = .ok other) :
    ∃ place, 1 < form.pages.length ∧
      other = { form with pages := form.pages.eraseIdx place } := by
  unfold removePage at h
  obtain ⟨⟨place, _⟩, _, h⟩ := Result.bind_eq_ok.1 h
  dsimp only at h
  by_cases hlast : form.pages.length ≤ 1
  · rw [if_pos hlast] at h
    cases h
  · rw [if_neg hlast] at h
    exact ⟨place, by omega, (Except.ok.inj h).symm⟩

/-- An edit with the index of a page changes that page. -/
theorem edit_eq_onPage {e : Edit} {index : Int} (h : e.pageIndex? = some index) :
    form.edit e = form.onPage index fun page => page.edit e := by
  cases e with
  | addPage | removePage => cases h
  | updatePage | setRouting | addField | updateField | removeField | moveField =>
      cases h
      rfl

/-- An edit adds a page at the end, or removes one that is not the last that is left, or puts what
it makes of a page in the place of the page. -/
theorem edit_eq_ok {e : Edit} (h : form.edit e = .ok other) :
    other = { form with pages := form.pages ++ [.numbered form.freeNumber] } ∨
    (∃ place, 1 < form.pages.length ∧
      other = { form with pages := form.pages.eraseIdx place }) ∨
    ∃ (index : Int) (place : Nat) (page changed : Page),
      e.pageIndex? = some index ∧ form.pageAt index = .ok (place, page) ∧
      page.edit e = .ok changed ∧ other = { form with pages := form.pages.set place changed } := by
  cases e with
  | addPage => exact .inl (addPage_eq_ok h)
  | removePage index => exact .inr (.inl (removePage_eq_ok h))
  | updatePage index | setRouting index | addField index | updateField index | removeField index
  | moveField index =>
      rw [edit_eq_onPage rfl] at h
      obtain ⟨place, page, changed, hpage, hchanged, heq⟩ := onPage_eq_ok h
      exact .inr (.inr ⟨index, place, page, changed, rfl, hpage, hchanged, heq⟩)

/-- What holds of a new page, and of what the edit makes of a page of which it holds, holds of all
pages after the edit. -/
theorem forall_pages_of_edit {P : Page → Prop} {e : Edit} (h : form.edit e = .ok other)
    (hpages : ∀ page ∈ form.pages, P page) (hnew : ∀ number, P (.numbered number))
    (hedit : ∀ index place page changed, e.pageIndex? = some index →
      form.pageAt index = .ok (place, page) → P page → page.edit e = .ok changed → P changed) :
    ∀ page ∈ other.pages, P page := by
  intro page hpage
  rcases edit_eq_ok h with rfl | ⟨place, _, rfl⟩ | ⟨index, place, before, changed, hindex, hat,
    hchanged, rfl⟩
  · rcases List.mem_append.1 hpage with hold | hadded
    · exact hpages page hold
    · obtain rfl := List.mem_singleton.1 hadded
      exact hnew form.freeNumber
  · exact hpages page (List.mem_of_mem_eraseIdx hpage)
  · rcases List.mem_or_eq_of_mem_set hpage with hold | rfl
    · exact hpages page hold
    · have hbefore := hpages before (List.mem_of_getElem? (pageAt_eq_ok hat))
      exact hedit index place before page hindex hat hbefore hchanged

/-- What every such edit keeps when it can be applied, a session of them keeps: an edit that cannot
be applied leaves the form as it was. -/
theorem session_keeps {P : Form → Prop} {Q : Edit → Prop}
    (hedit : ∀ {form other : Form} {e : Edit}, P form → Q e → form.edit e = .ok other → P other)
    (hform : P form) {edits : List Edit} (hedits : ∀ e ∈ edits, Q e) :
    P (edits.foldl tryEdit form) := by
  induction edits generalizing form with
  | nil => exact hform
  | cons e rest ih =>
      obtain ⟨he, hrest⟩ := List.forall_mem_cons.1 hedits
      refine ih ?_ hrest
      unfold tryEdit
      split
      · next edited hedited => exact hedit hform he hedited
      · exact hform

end Form

end PagedForm
