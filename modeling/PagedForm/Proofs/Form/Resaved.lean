import PagedForm.Form.Saved
import PagedForm.Proofs.Form.JsonDocument

/-!
# Opening and saving settles at once

A text or a document that is opened gives a settled form, and its defaults describe no file when it
was opened from JSON. So the text that is saved is read as the very form that was saved, and saving
changes nothing from the second time on.
-/

namespace PagedForm.Form

/-- A JSON text after the form in it was opened and saved this many times. -/
def resaved (text : String) : Nat → Result String
  | 0 => .ok text
  | times + 1 => do
      let saved ← resaved text times
      (ofJson saved).map toJson

variable {form : Form}

/-- The document of a form that was read from one is read again, and gives the same document. -/
theorem exists_ofDocument_toDocument {document : Value} (h : ofDocument document = .ok form) :
    ∃ again, ofDocument form.toDocument = .ok again ∧ again.toDocument = form.toDocument :=
  ⟨form.reloaded, ofDocument_toDocument (isDefined_of_ofDocument h),
    (isSettled_of_ofDocument h).toDocument_reloaded⟩

/-- The text of a form that was read from one is read as the form. -/
theorem ofJson_toJson {text : String} (h : ofJson text = .ok form) :
    ofJson form.toJson = .ok form := by
  unfold ofJson at h
  split at h
  · next document hread =>
      obtain ⟨hheld, hinitial⟩ := isJson_of_ofDocument (Json.isJson_of_read hread) h
      have hagain := ofDocument_toDocument (isDefined_of_ofDocument h)
      rw [(isSettled_of_ofDocument h).reloaded_eq hinitial] at hagain
      have hsaved : Json.read form.toJson = .ok form.toDocument :=
        Json.read_write hheld (.indented 2)
      unfold ofJson
      rw [hsaved]
      exact hagain
  · cases h
  · cases h

/-- The text of a form that was read from one stays as it is from then on. -/
theorem resaved_succ {text : String} (h : ofJson text = .ok form) (times : Nat) :
    resaved text (times + 1) = .ok form.toJson := by
  induction times with
  | zero => exact congrArg (Except.map toJson) h
  | succ times ih =>
      refine Result.bind_eq_ok.2 ⟨form.toJson, ih, ?_⟩
      rw [ofJson_toJson h]
      rfl

/-- Saving settles what was opened at once. For every JSON text that is read, the text that is saved
is read too and gives the same form, and however often it is opened and saved it stays the same. For
every document that is read, what is saved is read too and is saved as the same document. -/
theorem saving_settles :
    (∀ text form, ofJson text = .ok form →
      ofJson form.toJson = .ok form ∧
      ∀ times, resaved text (times + 1) = .ok form.toJson) ∧
    ∀ document form, ofDocument document = .ok form →
      ∃ again, ofDocument form.toDocument = .ok again ∧ again.toDocument = form.toDocument :=
  ⟨fun _ _ h => ⟨ofJson_toJson h, resaved_succ h⟩, fun _ _ h => exists_ofDocument_toDocument h⟩

/-- A text that leaves most attributes out, gives a number for a flag and an empty text for a
dependency and for a summary check, and has an entry that no form has. -/
def sparseText : String :=
  "\x7b\"steps\": [\x7b\"id\": \"a\", \"summaryCheckExpression\": \"\", " ++
    "\"fields\": [\x7b\"id\": \"q\", \"type\": \"text\", \"required\": 1, \"dependsOn\": \"\"\x7d]\x7d], " ++
    "\"name\": null, \"size\": 1.50\x7d"

/-- A document with a field for one file, which is described by its parts. -/
def describingDocument : Value :=
  .fields [("steps", .list [.fields
    [("id", .text "a"), ("fields", .list [.fields
      [("id", .text "plan"), ("type", .text "file"),
       ("defaultValue", .file (.text "plan.pdf") (.int 9) .null .null)]])]])]

/-- Both the text and the document are replaced when they are saved, and not again after that. -/
theorem saving_settles_sparse :
    (∃ form, ofJson sparseText = .ok form ∧ form.toJson ≠ sparseText ∧
      ofJson form.toJson = .ok form ∧
      ∀ times, resaved sparseText (times + 1) = .ok form.toJson) ∧
    ∃ form, ofDocument describingDocument = .ok form ∧ form.toDocument ≠ describingDocument ∧
      ∃ again, ofDocument form.toDocument = .ok again ∧ again.toDocument = form.toDocument := by
  have hread : (ofJson sparseText).toOption.isSome = true := by decide +kernel
  have hreplaced : ((ofJson sparseText).toOption.map toJson == some sparseText) = false := by
    decide +kernel
  constructor
  · cases hform : ofJson sparseText with
    | error fault =>
        rw [hform] at hread
        cases hread
    | ok form =>
        rw [hform] at hreplaced
        refine ⟨form, rfl, fun heq => ?_, saving_settles.1 _ _ hform⟩
        simp [Except.toOption, heq] at hreplaced
  · refine ⟨_, rfl, fun heq => ?_, saving_settles.2 describingDocument _ rfl⟩
    have hlength := congrArg (fun document => document.record?.map List.length) heq
    exact absurd hlength (by decide)

end PagedForm.Form
