import PagedForm.Proofs.Diagnosis.Findings
import PagedForm.Proofs.Form.Editing
import PagedForm.Proofs.Numbering
import PagedForm.Proofs.Results
import Std.Data.String.ToNat

/-!
# Added pages

A page is added under a number that is free in the ids and in the names of the pages alike.
`countsTo_freeNumber` says how it is found: counting up from the number after the count of pages,
past the numbers that an id or a name uses. Each page uses at most two numbers, so the counting
ends. As long as no id and no name is changed by hand, adding and removing pages and editing their
fields keeps the pages apart.
-/

namespace PagedForm

namespace Page

/-- Different numbers give different ids. -/
theorem numbered_id_injective : Function.Injective fun number => (numbered number).id :=
  fun _ _ h => Nat.repr_injective ((String.append_right_inj _).1 (Value.text_injective h))

/-- Different numbers give different names. -/
theorem numbered_name_injective : Function.Injective fun number => (numbered number).name :=
  fun _ _ h => Nat.repr_injective ((String.append_right_inj _).1 (Value.text_injective h))

end Page

namespace Form

variable {form other : Form}

/-! ## The free number -/

/-- A number is used when the id or the name that it gives is taken. -/
theorem usesNumber_iff {number : Nat} :
    form.usesNumber number = true ↔
      (Page.numbered number).id ∈ form.pages.map Page.id ∨
        (Page.numbered number).name ∈ form.pages.map Page.name := by
  have hid (page : Page) : page.id.same (Page.numbered number).id = true ↔
      page.id = (Page.numbered number).id := Value.same_text_iff
  have hname (page : Page) : page.name.same (Page.numbered number).name = true ↔
      page.name = (Page.numbered number).name := Value.same_text_iff
  simp only [usesNumber, List.any_eq_true, Bool.or_eq_true, hid, hname, List.mem_map,
    and_or_left, exists_or]

/-- A number is free when neither the id nor the name that it gives is taken. -/
theorem usesNumber_eq_false {number : Nat} :
    form.usesNumber number = false ↔
      (Page.numbered number).id ∉ form.pages.map Page.id ∧
        (Page.numbered number).name ∉ form.pages.map Page.name := by
  rw [← Bool.not_eq_true, usesNumber_iff, not_or]

/-- Counting up from the number after the count of pages ends at the free number. -/
theorem countsTo_freeNumber (form : Form) :
    CountsTo form.usesNumber (form.pages.length + 1) form.freeNumber := by
  obtain ⟨ids, hids, hid⟩ := exists_marks Page.numbered_id_injective (form.pages.map Page.id)
  obtain ⟨names, hnames, hname⟩ :=
    exists_marks Page.numbered_name_injective (form.pages.map Page.name)
  -- The ids use as many numbers as there are pages at most, and so do the names.
  have hused : ∀ n, form.usesNumber n = true → n ∈ ids ++ names := by
    intro n hn
    rw [List.mem_append]
    exact (usesNumber_iff.1 hn).imp (hid n) (hname n)
  obtain ⟨last, hlast, hle⟩ := exists_countsTo hused (form.pages.length + 1)
  rw [List.length_append, hids, hnames, List.length_map, List.length_map] at hle
  have hfree : form.freeNumber = last := by
    unfold freeNumber
    dsimp only
    rw [hlast.find?_range (by omega)]
    rfl
  rw [hfree]
  exact hlast

/-- The free number is the least one above the count of pages whose id and name are both free. -/
theorem isLeast_freeNumber (form : Form) :
    IsLeast {n | form.pages.length < n ∧ (Page.numbered n).id ∉ form.pages.map Page.id ∧
      (Page.numbered n).name ∉ form.pages.map Page.name} form.freeNumber := by
  simpa only [usesNumber_eq_false, Nat.succ_le_iff] using form.countsTo_freeNumber.isLeast

/-- A page can be added when the ids and the names of the pages are texts. -/
theorem addPage_of_textual (hids : form.HasTextualIds) (hnames : form.HasTextualNames) :
    form.addPage = .ok { form with pages := form.pages ++ [.numbered form.freeNumber] } := by
  have hnone : ¬ form.pages.any (fun page =>
      (page.id.list?.isSome || page.id.record?.isSome) ||
        (page.name.list?.isSome || page.name.record?.isSome)) = true := by
    rw [List.any_eq_true]
    rintro ⟨page, hpage, hmarked⟩
    obtain ⟨s, hid⟩ := hids page hpage
    obtain ⟨t, hname⟩ := hnames page hpage
    rw [hid, hname] at hmarked
    cases hmarked
  unfold addPage
  exact if_neg hnone

end Form

/-! ## Pages are kept apart -/

/-- The edit gives no page a new id or a new name. -/
def Edit.KeepsPageNames : Edit → Prop
  | .updatePage _ changes =>
      changes.attributes.find? "id" = none ∧ changes.attributes.find? "name" = none
  | _ => True

/-- An edit that gives no new id and no new name leaves both as they are. -/
theorem Page.edit_keeps {page other : Page} {e : Edit} (he : e.KeepsPageNames)
    (h : page.edit e = .ok other) : other.id = page.id ∧ other.name = page.name := by
  cases e with
  | addPage | removePage =>
      cases h
      exact ⟨rfl, rfl⟩
  | updatePage _ changes =>
      obtain rfl := revise_eq_ok h
      show (changes.attributes.find? "id").getD page.id = page.id ∧
        (changes.attributes.find? "name").getD page.name = page.name
      rw [he.1, he.2]
      exact ⟨rfl, rfl⟩
  | setRouting =>
      cases h
      exact ⟨rfl, rfl⟩
  | addField =>
      obtain ⟨_, rfl⟩ := addField_eq_ok h
      exact ⟨rfl, rfl⟩
  | updateField _ id changes =>
      obtain ⟨named, _, h⟩ := Result.bind_eq_ok.1 h
      obtain ⟨_, _, _, _, _, _, _, _, _, _, rfl⟩ := updateField_eq_ok h
      unfold replaceField
      dsimp only
      split <;> exact ⟨rfl, rfl⟩
  | removeField _ id =>
      obtain ⟨named, _, h⟩ := Result.bind_eq_ok.1 h
      obtain rfl := removeField_eq_ok h
      exact ⟨rfl, rfl⟩
  | moveField =>
      obtain ⟨_, _, _, rfl⟩ := moveField_eq_ok h
      exact ⟨rfl, rfl⟩

namespace Form

variable {form other : Form}

/-- The ids of the pages are texts and so are their names, and no two pages share one. -/
structure HasDistinctPages (form : Form) : Prop where
  textualIds : form.HasTextualIds
  textualNames : form.HasTextualNames
  distinctIds : (form.pages.map Page.id).Nodup
  distinctNames : (form.pages.map Page.name).Nodup

/-- A new form has one page. -/
theorem hasDistinctPages_new (name : Value) : (new name).HasDistinctPages where
  textualIds := List.forall_mem_singleton.2 ⟨_, rfl⟩
  textualNames := List.forall_mem_singleton.2 ⟨_, rfl⟩
  distinctIds := List.nodup_singleton _
  distinctNames := List.nodup_singleton _

/-- What marks the pages apart does so after an edit, when pages keep their mark and a page that is
added has a new one. -/
theorem nodup_map_of_edit {mark : Page → Value} {e : Edit} (h : form.edit e = .ok other)
    (hdistinct : (form.pages.map mark).Nodup)
    (hnew : mark (.numbered form.freeNumber) ∉ form.pages.map mark)
    (hkept : ∀ page changed, page.edit e = .ok changed → mark changed = mark page) :
    (other.pages.map mark).Nodup := by
  rcases edit_eq_ok h with rfl | ⟨place, _, rfl⟩ | ⟨_, place, page, changed, _, hat, hchanged, rfl⟩
  · show ((form.pages ++ [Page.numbered form.freeNumber]).map mark).Nodup
    rw [List.map_append, List.map_singleton, ← List.concat_eq_append]
    exact hdistinct.concat hnew
  · exact ((form.pages.eraseIdx_sublist place).map mark).nodup hdistinct
  · show ((form.pages.set place changed).map mark).Nodup
    obtain ⟨hplace, hget⟩ := List.getElem?_eq_some_iff.1 (pageAt_eq_ok hat)
    have hmark : mark changed = mark form.pages[place] := by
      rw [hget, hkept page changed hchanged]
    rw [List.map_set, hmark, ← List.map_set, List.set_getElem_self]
    exact hdistinct

/-- An edit that can be applied keeps the pages apart. -/
theorem HasDistinctPages.edit (h : form.HasDistinctPages) {e : Edit} (he : e.KeepsPageNames)
    (hother : form.edit e = .ok other) : other.HasDistinctPages where
  textualIds := forall_pages_of_edit hother h.textualIds (fun _ => ⟨_, rfl⟩)
    fun _ _ _ _ _ _ hpage hchanged => (Page.edit_keeps he hchanged).1 ▸ hpage
  textualNames := forall_pages_of_edit hother h.textualNames (fun _ => ⟨_, rfl⟩)
    fun _ _ _ _ _ _ hpage hchanged => (Page.edit_keeps he hchanged).2 ▸ hpage
  distinctIds := nodup_map_of_edit hother h.distinctIds form.isLeast_freeNumber.1.2.1
    fun _ _ hchanged => (Page.edit_keeps he hchanged).1
  distinctNames := nodup_map_of_edit hother h.distinctNames form.isLeast_freeNumber.1.2.2
    fun _ _ hchanged => (Page.edit_keeps he hchanged).2

/-- A session of edits keeps the pages apart. -/
theorem HasDistinctPages.session (h : form.HasDistinctPages) {edits : List Edit}
    (hedits : ∀ e ∈ edits, e.KeepsPageNames) :
    (edits.foldl Form.tryEdit form).HasDistinctPages :=
  session_keeps (fun hform he hother => hform.edit he hother) h hedits

/-- A page can always be added to a form whose pages have texts for ids and names. It gets the
number where counting up from the number after the count of pages ends, which is the least above
this count for which neither the id nor the name is taken. So after any session of edits of a new
form that changes no id and no name of a page by hand, in which edits that cannot be applied leave
the form as it was, no two pages share an id or a name, and another page can be added. -/
theorem added_pages_fresh :
    (∀ form : Form, form.HasTextualIds → form.HasTextualNames →
      form.edit .addPage =
          .ok { form with pages := form.pages ++ [.numbered form.freeNumber] } ∧
        CountsTo form.usesNumber (form.pages.length + 1) form.freeNumber ∧
        IsLeast {n | form.pages.length < n ∧ (Page.numbered n).id ∉ form.pages.map Page.id ∧
          (Page.numbered n).name ∉ form.pages.map Page.name} form.freeNumber) ∧
      ∀ (name : Value) (edits : List Edit), (∀ e ∈ edits, e.KeepsPageNames) →
        (edits.foldl tryEdit (new name)).HasDistinctPages := by
  refine ⟨fun form hids hnames => ?_, fun name edits hedits => ?_⟩
  · exact ⟨addPage_of_textual hids hnames, form.countsTo_freeNumber, form.isLeast_freeNumber⟩
  · exact (hasDistinctPages_new name).session hedits

/-- A form with two pages, of which the second has the id of a third and the name of a fourth. -/
def skippingForm : Form :=
  { new (.text newName) with
    pages := [.numbered 1, { Page.numbered 3 with name := .text "Page 4" }] }

/-- Edits that remove the first of three pages and add another, with a field and a new description
in between. -/
def pageEdits : List Edit :=
  [.addPage, .addPage, .updatePage 1 ⟨[("description", .text "Second page")], none⟩,
   .addField 2 (.plain .text "a" (.text "Text") (.text .null)) none, .removePage 0, .addPage]

/-- The next page of the form has the number five, since three and four are used, and the page that
is added after the first was removed has the number four. -/
theorem added_pages_fresh_skipping :
    skippingForm.HasTextualIds ∧ skippingForm.HasTextualNames ∧
      (∀ e ∈ pageEdits, e.KeepsPageNames) ∧
      skippingForm.edit .addPage =
        .ok { skippingForm with pages := skippingForm.pages ++ [.numbered 5] } ∧
      (pageEdits.foldl tryEdit (new (.text newName))).pages.map Page.id =
        [.text "step2", .text "step3", .text "step4"] ∧
      (pageEdits.foldl tryEdit (new (.text newName))).HasDistinctPages := by
  have hids : skippingForm.HasTextualIds := by
    simp [HasTextualIds, skippingForm, Page.numbered]
  have hnames : skippingForm.HasTextualNames := by
    simp [HasTextualNames, skippingForm, Page.numbered]
  have hedits : ∀ e ∈ pageEdits, e.KeepsPageNames := by
    simp only [pageEdits, List.forall_mem_cons, Edit.KeepsPageNames]
    exact ⟨trivial, trivial, ⟨rfl, rfl⟩, trivial, trivial, trivial, List.forall_mem_nil _⟩
  exact ⟨hids, hnames, hedits, (added_pages_fresh.1 skippingForm hids hnames).1, rfl,
    added_pages_fresh.2 (.text newName) pageEdits hedits⟩

end Form

end PagedForm
