import Mathlib.Data.List.Forall2
import Mathlib.Data.Set.List
import PagedForm.Fault

/-!
# Results of lists

An operation that is carried out on every item of a list succeeds when it does on each item, and
the results stand in the order of the items.
-/

namespace PagedForm

/-- Every item of a list stands at some place. -/
theorem exists_mem_zipIdx {α : Type} {items : List α} {item : α} (h : item ∈ items) :
    ∃ index, (item, index) ∈ items.zipIdx := by
  obtain ⟨index, hindex⟩ := List.mem_iff_getElem?.1 h
  exact ⟨index, List.mem_zipIdx_iff_getElem?.2 hindex⟩

/-- Every item of a list has an image when the list of images is there. -/
theorem exists_mapM_eq_some {α β : Type} {f : α → Option β} {items : List α} :
    (∃ images, items.mapM f = some images) ↔ ∀ item ∈ items, ∃ image, f item = some image := by
  induction items with
  | nil => simp
  | cons item rest ih =>
      rw [List.forall_mem_cons, ← ih, List.mapM_cons]
      cases f item with
      | none => simp
      | some image => cases rest.mapM f <;> simp

namespace Result

variable {ε α β : Type} {f : α → Except ε β}

/-- Going through a list succeeds with the results of its items. -/
theorem mapM_eq_ok {items : List α} {results : List β} :
    items.mapM f = .ok results ↔ List.Forall₂ (fun item result => f item = .ok result) items
      results := by
  induction items generalizing results with
  | nil =>
      rw [List.mapM_nil, List.forall₂_nil_left_iff]
      exact ⟨fun h => by cases h; rfl, fun h => by rw [h]; rfl⟩
  | cons item rest ih =>
      rw [List.mapM_cons, bind_eq_ok, List.forall₂_cons_left_iff]
      constructor
      · rintro ⟨result, hitem, hrest⟩
        obtain ⟨others, hothers, heq⟩ := bind_eq_ok.1 hrest
        cases heq
        exact ⟨result, others, hitem, ih.1 hothers, rfl⟩
      · rintro ⟨result, others, hitem, hothers, rfl⟩
        exact ⟨result, hitem, bind_eq_ok.2 ⟨others, ih.2 hothers, rfl⟩⟩

/-- Every item has its result among the results. -/
theorem exists_mem_of_mapM_eq_ok {items : List α} {results : List β}
    (h : items.mapM f = .ok results) {item : α} (hitem : item ∈ items) :
    ∃ result ∈ results, f item = .ok result := by
  have hpairs := mapM_eq_ok.1 h
  clear h
  induction hpairs with
  | nil => cases hitem
  | @cons first result rest others hfirst _ ih =>
      rcases List.mem_cons.1 hitem with rfl | hitem
      · exact ⟨result, List.mem_cons_self, hfirst⟩
      · obtain ⟨other, hother, heq⟩ := ih hitem
        exact ⟨other, List.mem_cons_of_mem _ hother, heq⟩

/-- Every result is that of an item. -/
theorem exists_mem_of_mem_results {items : List α} {results : List β}
    (h : items.mapM f = .ok results) {result : β} (hresult : result ∈ results) :
    ∃ item ∈ items, f item = .ok result := by
  have hpairs := mapM_eq_ok.1 h
  clear h
  induction hpairs with
  | nil => cases hresult
  | @cons item first rest others hfirst _ ih =>
      rcases List.mem_cons.1 hresult with rfl | hresult
      · exact ⟨item, List.mem_cons_self, hfirst⟩
      · obtain ⟨other, hother, heq⟩ := ih hresult
        exact ⟨other, List.mem_cons_of_mem _ hother, heq⟩

/-- Going through a list succeeds when every item does. -/
theorem exists_mapM_eq_ok {items : List α} :
    (∃ results, items.mapM f = .ok results) ↔ ∀ item ∈ items, ∃ result, f item = .ok result := by
  constructor
  · rintro ⟨results, h⟩ item hitem
    obtain ⟨result, _, heq⟩ := exists_mem_of_mapM_eq_ok h hitem
    exact ⟨result, heq⟩
  · intro h
    induction items with
    | nil => exact ⟨[], rfl⟩
    | cons item rest ih =>
        obtain ⟨⟨result, hitem⟩, hrest⟩ := List.forall_mem_cons.1 h
        obtain ⟨results, hresults⟩ := ih hrest
        exact ⟨result :: results, mapM_eq_ok.2 (.cons hitem (mapM_eq_ok.1 hresults))⟩

/-- Going through the images of items gives the images of the items, where it does so for each. -/
theorem mapM_map_eq_ok {γ : Type} {items : List γ} {image : γ → α} {result : γ → β}
    (h : ∀ item ∈ items, f (image item) = .ok (result item)) :
    (items.map image).mapM f = .ok (items.map result) := by
  rw [mapM_eq_ok, List.forall₂_map_left_iff, List.forall₂_map_right_iff, List.forall₂_same]
  exact h

/-- Operations that agree on the items of a list agree on the list. -/
theorem mapM_congr {g : α → Except ε β} {items : List α} (h : ∀ item ∈ items, f item = g item) :
    items.mapM f = items.mapM g := by
  induction items with
  | nil => rfl
  | cons item rest ih =>
      obtain ⟨hitem, hrest⟩ := List.forall_mem_cons.1 h
      rw [List.mapM_cons, List.mapM_cons, hitem, ih hrest]

/-- Steps that agree on the items of a list lead to the same state. -/
theorem foldlM_congr {step other : β → α → Except ε β} {items : List α}
    (h : ∀ item ∈ items, ∀ state, step state item = other state item) (state : β) :
    items.foldlM step state = items.foldlM other state := by
  induction items generalizing state with
  | nil => rfl
  | cons item rest ih =>
      obtain ⟨hitem, hrest⟩ := List.forall_mem_cons.1 h
      rw [List.foldlM_cons, List.foldlM_cons, hitem]
      exact bind_congr fun next => ih hrest next

/-- Two operations in a row succeed when the first does with a result that the second can use. -/
theorem exists_bind_eq_ok {first : Except ε α} {next : α → Except ε β} :
    (∃ b, first >>= next = .ok b) ↔ ∃ a, first = .ok a ∧ ∃ b, next a = .ok b := by
  simp only [bind_eq_ok]
  exact ⟨fun ⟨b, a, ha, hb⟩ => ⟨a, ha, b, hb⟩, fun ⟨a, ha, b, hb⟩ => ⟨b, a, ha, hb⟩⟩

/-- A changed result is a success when there is a result to change. -/
theorem exists_map_eq_ok {first : Result α} {change : α → β} :
    (∃ b, first.map change = .ok b) ↔ ∃ a, first = .ok a := by
  constructor
  · rintro ⟨b, h⟩
    obtain ⟨a, ha, _⟩ := map_eq_ok.1 h
    exact ⟨a, ha⟩
  · rintro ⟨a, ha⟩
    exact ⟨change a, map_eq_ok.2 ⟨a, ha, rfl⟩⟩

/-- An operation that a test can be made on has a result, which passes the test. -/
theorem exists_eq_ok_of_any {result : Except ε α} {p : α → Bool}
    (h : result.toOption.any p = true) : ∃ a, result = .ok a ∧ p a = true := by
  cases result with
  | error _ => cases h
  | ok a => exact ⟨a, rfl, h⟩

end Result

namespace Value

/-- Different texts are different values. -/
theorem text_injective : Function.Injective text := by
  rintro s t h
  cases h
  rfl

/-- Texts are joined by the separator. -/
theorem joinTexts_map_text (separator : String) (texts : List String) :
    joinTexts separator (texts.map .text) = .ok (separator.intercalate texts) := by
  refine Result.bind_eq_ok.2 ⟨texts, Result.mapM_eq_ok.2 ?_, rfl⟩
  exact List.forall₂_map_left_iff.2 (List.forall₂_same.2 fun s _ => rfl)

/-- Items that are texts are a list of texts. -/
theorem exists_texts {items : List Value} (h : ∀ item ∈ items, ∃ s, item = .text s) :
    ∃ texts : List String, items = texts.map .text := by
  have hrange : items ∈ Set.range (List.map Value.text) := by
    rw [Set.range_list_map]
    intro item hitem
    obtain ⟨s, rfl⟩ := h item hitem
    exact ⟨s, rfl⟩
  obtain ⟨texts, rfl⟩ := hrange
  exact ⟨texts, rfl⟩

/-- Items that are texts can be joined. -/
theorem exists_joinTexts {items : List Value} (h : ∀ item ∈ items, ∃ s, item = .text s)
    (separator : String) : ∃ joined, joinTexts separator items = .ok joined := by
  obtain ⟨texts, rfl⟩ := exists_texts h
  exact ⟨_, joinTexts_map_text separator texts⟩

/-- Items can be joined exactly when they are texts. -/
theorem exists_joinTexts_iff {items : List Value} {separator : String} :
    (∃ joined, joinTexts separator items = .ok joined) ↔ ∀ item ∈ items, ∃ s, item = .text s := by
  refine ⟨?_, fun h => exists_joinTexts h separator⟩
  rintro ⟨joined, h⟩ item hitem
  obtain ⟨parts, hparts, _⟩ := Result.bind_eq_ok.1 h
  obtain ⟨s, _, hs⟩ := Result.exists_mem_of_mapM_eq_ok hparts hitem
  split at hs
  · next text => exact ⟨text, rfl⟩
  · cases hs

end Value

end PagedForm
