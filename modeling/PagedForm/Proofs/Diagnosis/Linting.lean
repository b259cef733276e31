import PagedForm.Diagnosis.Lint
import PagedForm.Proofs.Results

/-!
# Which fields can be checked

The check for mistakes reads titles as texts and compares file limits with the ceiling of the
settings. It has a result exactly for the fields whose attributes allow this, and for a page
exactly when it has one for each field.
-/

namespace PagedForm

/-- The title of the field is a text if it is given, and its file limit, if it has one, can be
compared with the ceiling of the settings. -/
structure Field.IsLintable (settings : Settings) (field : Field) : Prop where
  title : field.title.truthy = true → ∃ s, field.title = .text s
  limit : ∀ spec ∈ field.upload?, spec.maxSize.truthy = true →
    ∃ above, spec.maxSize.above? settings.maxSizeCeiling = some above

/-- Only a text is read as one. -/
theorem Value.asText_eq_ok {value : Value} {s : String} :
    value.asText = .ok s ↔ value = .text s := by
  constructor
  · intro h
    unfold asText at h
    split at h
    · cases h
      rfl
    · cases h
  · rintro rfl
    rfl

namespace Page

/-- What does not lack text is a text that is not blank. -/
theorem eq_text_of_lacksText {value : Value} (h : lacksText value = .ok false) :
    ∃ s, value = .text s ∧ s.isEmpty = false ∧ Text.allBlank s = false := by
  unfold lacksText at h
  split at h
  · next htruthy =>
      obtain ⟨s, htext, hblank⟩ := Result.map_eq_ok.1 h
      rw [Value.asText_eq_ok] at htext
      subst htext
      exact ⟨s, rfl, by simpa using htruthy, hblank⟩
  · cases h

/-- A value can be tested for text when it is one or does not count as given. -/
theorem exists_lacksText {value : Value} :
    (∃ lacks, lacksText value = .ok lacks) ↔
      (value.truthy = true → ∃ s, value = .text s) := by
  unfold lacksText
  split
  · next htruthy =>
      rw [Result.exists_map_eq_ok]
      simp only [Value.asText_eq_ok, htruthy, true_implies]
  · next hfalse => exact ⟨fun _ htruthy => absurd htruthy hfalse, fun _ => ⟨true, rfl⟩⟩

/-- A file limit can be checked when it can be compared with the ceiling. -/
theorem exists_sizeMistake {settings : Settings} {field : Field} :
    (∃ mistakes, sizeMistake settings field = .ok mistakes) ↔
      ∀ spec ∈ field.upload?, spec.maxSize.truthy = true →
        ∃ above, spec.maxSize.above? settings.maxSizeCeiling = some above := by
  unfold sizeMistake
  cases field.upload? with
  | none => simp
  | some spec =>
      by_cases hgiven : spec.maxSize.truthy = true
      · cases habove : spec.maxSize.above? settings.maxSizeCeiling with
        | none => simp [hgiven, habove]
        | some above => cases above <;> simp [hgiven, habove]
      · simp [hgiven]

/-- A field can be checked when it is lintable. -/
theorem exists_fieldMistakes {settings : Settings} {field : Field} :
    (∃ mistakes, fieldMistakes settings field = .ok mistakes) ↔ field.IsLintable settings := by
  constructor
  · rintro ⟨mistakes, h⟩
    obtain ⟨title, htitle, h⟩ := Result.bind_eq_ok.1 h
    obtain ⟨size, hsize, _⟩ := Result.bind_eq_ok.1 h
    exact ⟨exists_lacksText.1 (Result.exists_map_eq_ok.1 ⟨title, htitle⟩),
      exists_sizeMistake.1 ⟨size, hsize⟩⟩
  · intro h
    obtain ⟨title, htitle⟩ : ∃ title, titleMistake field = .ok title :=
      Result.exists_map_eq_ok.2 (exists_lacksText.2 h.title)
    obtain ⟨size, hsize⟩ := exists_sizeMistake.2 h.limit
    exact ⟨_, Result.bind_eq_ok.2 ⟨title, htitle, Result.bind_eq_ok.2 ⟨size, hsize, rfl⟩⟩⟩

/-- A page can be checked when its fields are lintable. -/
theorem exists_mistakes {settings : Settings} {page : Page} :
    (∃ mistakes, page.mistakes settings = .ok mistakes) ↔
      ∀ field ∈ page.fields, field.IsLintable settings := by
  unfold mistakes
  rw [Result.exists_map_eq_ok, Result.exists_mapM_eq_ok]
  simp only [exists_fieldMistakes]

end Page

end PagedForm
