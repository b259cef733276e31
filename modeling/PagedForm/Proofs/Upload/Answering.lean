import PagedForm.Example
import PagedForm.Proofs.Field.Shape
import PagedForm.Upload

/-!
# Uploaded files as answers

Files may be given as descriptions or as records of their parts. The answer that they make is of
the shape that a file field has its answers in, so it can be made the default of the field and is
what the field then starts with; and it gives itself when its own files are uploaded again.
-/

namespace PagedForm

/-- An uploaded file whose parts have their types. -/
structure UploadedFile where
  name : String
  size : Int
  type : String
  url : String
  deriving DecidableEq, Repr

namespace UploadedFile

/-- The file as it is described. -/
def info (file : UploadedFile) : FileInfo :=
  ⟨.text file.name, .int file.size, .text file.type, .text file.url⟩

/-- A value gives a file: it is the description of the file, or a record of its parts. Texts that
the record does not hold are empty, and a size that it does not hold is zero. -/
inductive IsGivenBy (file : UploadedFile) : Value → Prop where
  | described : file.IsGivenBy file.info.described
  | record {entries : List (Atom × Value)} :
      (Value.find? (.text "name") entries).getD (.text "") = .text file.name →
      (Value.find? (.text "size") entries).getD (.int 0) = .int file.size →
      (Value.find? (.text "type") entries).getD (.text "") = .text file.type →
      (Value.find? (.text "url") entries).getD (.text "") = .text file.url →
      file.IsGivenBy (.record entries)

/-- The record of a file as an answer gives the file. -/
theorem isGivenBy_toValue (file : UploadedFile) : file.IsGivenBy file.info.toValue :=
  .record rfl rfl rfl rfl

/-- The file is read from a value that gives it. -/
theorem IsGivenBy.ofValue_eq {file : UploadedFile} {value : Value} (h : file.IsGivenBy value) :
    FileInfo.ofValue value = .ok file.info := by
  cases h with
  | described => rfl
  | record hname hsize htype hurl =>
      have hnumber : ((Value.int file.size).orElse (.int 0)).wholeNumber = .ok file.size := by
        by_cases hzero : file.size = 0
        · simp [Value.orElse, Value.truthy, Value.wholeNumber, hzero]
        · simp [Value.orElse, Value.truthy, Value.wholeNumber, hzero]
      simp only [FileInfo.ofValue, hname, hsize, htype, hurl, hnumber, Value.shown_text]
      rfl

end UploadedFile

/-- The values of a list give these files, in the same order. -/
abbrev Upload.Gives (values : List Value) (files : List UploadedFile) : Prop :=
  List.Forall₂ (fun value file => file.IsGivenBy value) values files

namespace Upload

variable {values : List Value} {files : List UploadedFile}

/-- The files are read from values that give them. -/
theorem Gives.mapM_ofValue (h : Gives values files) :
    values.mapM FileInfo.ofValue = .ok (files.map UploadedFile.info) := by
  rw [Result.mapM_eq_ok, List.forall₂_map_right_iff]
  exact h.imp fun _ _ hgiven => hgiven.ofValue_eq

/-- The records of files give the files. -/
theorem gives_toValue (files : List UploadedFile) :
    Gives (files.map fun file => file.info.toValue) files := by
  rw [Gives, List.forall₂_map_left_iff, List.forall₂_same]
  exact fun file _ => file.isGivenBy_toValue

/-- The files that an answer consists of: the items of a list, or a single one. -/
def filesOf : Value → List Value
  | .list items => items
  | .null => []
  | file => [file]

/-- The answer that files make, as a default. -/
def defaultOf (spec : UploadSpec) (files : List UploadedFile) : Default :=
  let items := files.map fun file =>
    FileItem.record [(.text "name", .text file.name), (.text "size", .int file.size),
      (.text "type", .text file.type), (.text "url", .text file.url)]
  if spec.multiple.truthy then .files items
  else (items.head?.map Default.file).getD .absent

/-- The entry accepts it as a default. -/
theorem accepts_defaultOf (spec : UploadSpec) (files : List UploadedFile) :
    (Entry.file spec).Accepts (defaultOf spec files) := by
  unfold defaultOf
  cases hmultiple : spec.multiple.truthy with
  | true => exact .files _ hmultiple
  | false =>
      cases files with
      | nil => exact .absent _
      | cons file rest => exact .file _ hmultiple

/-- Its value is the answer. -/
theorem toValue_defaultOf (spec : UploadSpec) (files : List UploadedFile) :
    (defaultOf spec files).toValue = answerOf spec (files.map UploadedFile.info) := by
  unfold defaultOf answerOf
  cases spec.multiple.truthy with
  | true =>
      simp [Default.toValue, FileItem.toValue, FileInfo.toValue, Value.fields, UploadedFile.info]
  | false =>
      cases files with
      | nil => rfl
      | cons file rest => rfl

/-- The answer is missing exactly when there are no files. -/
theorem isMissing_answerOf (spec : UploadSpec) (files : List UploadedFile) :
    isMissing (answerOf spec (files.map UploadedFile.info)) = true ↔ files = [] := by
  unfold answerOf
  cases spec.multiple.truthy <;> cases files <;> simp [isMissing, FileInfo.toValue, Value.fields]

/-- The answer gives the files that make it again: all of them, or the first. -/
theorem exists_gives_filesOf (spec : UploadSpec) (files : List UploadedFile) :
    ∃ kept, Gives (filesOf (answerOf spec (files.map UploadedFile.info))) kept ∧
      answerOf spec (kept.map UploadedFile.info) =
        answerOf spec (files.map UploadedFile.info) := by
  cases hmultiple : spec.multiple.truthy with
  | true =>
      refine ⟨files, ?_, rfl⟩
      simpa [answerOf, hmultiple, filesOf] using gives_toValue files
  | false =>
      -- A field for one file keeps the first one only.
      refine ⟨files.take 1, ?_, ?_⟩
      · cases files with
        | nil => simp [answerOf, hmultiple, filesOf]
        | cons file rest =>
            simp only [answerOf, hmultiple]
            exact .cons file.isGivenBy_toValue .nil
      · cases files <;> simp [answerOf, hmultiple]

end Upload

namespace Field

variable {field : Field} {spec : UploadSpec} {values : List Value} {files : List UploadedFile}

/-- The default of an input can be replaced by any that its entry accepts. -/
theorem revise_default {required readOnly : Value} {initial other : Default} {entry : Entry}
    (hbody : field.body = .input ⟨required, readOnly, initial, entry⟩) (hid : field.id ≠ "")
    (haccepts : entry.Accepts other) :
    field.revise [("default_value", other.toValue)] =
      .ok { field with body := .input ⟨required, readOnly, other, entry⟩ } := by
  obtain ⟨id, title, dependsOn, showWhen, body⟩ := field
  obtain rfl := hbody
  have hdefined : (⟨id, title, dependsOn, showWhen, .input ⟨required, readOnly, other, entry⟩⟩ :
      Field).IsDefined := ⟨hid, haccepts⟩
  have hbuild := hdefined.build_attributes
  -- Each kind of entry has its own attributes, all of which are read again.
  cases entry <;> exact hbuild

/-- Files that are given to a file field make their answer. -/
theorem uploadAnswer_eq (hspec : field.upload? = some spec) (h : Upload.Gives values files) :
    field.uploadAnswer values = .ok (Upload.answerOf spec (files.map UploadedFile.info)) := by
  simp [uploadAnswer, h.mapM_ofValue, asUpload, hspec, Result.ok_bind]

/-- Without files the answer is the empty one. -/
theorem emptyAnswer_of_upload (hspec : field.upload? = some spec) :
    field.emptyAnswer = Upload.answerOf spec [] := by
  obtain ⟨required, readOnly, initial, hbody⟩ := upload?_eq_some.1 hspec
  simp only [emptyAnswer, hbody, Upload.answerOf]
  rfl

/-- A field that has the answer as its default starts with it. -/
theorem initialAnswer_of_defaultOf {required readOnly : Value}
    (hbody : field.body = .input ⟨required, readOnly, Upload.defaultOf spec files, .file spec⟩) :
    field.initialAnswer = Upload.answerOf spec (files.map UploadedFile.info) := by
  have hinitial : field.initial = Upload.defaultOf spec files := by
    rw [initial, hbody]
  have hempty : field.emptyAnswer = Upload.answerOf spec [] :=
    emptyAnswer_of_upload (upload?_eq_some.2 ⟨_, _, _, hbody⟩)
  rw [initialAnswer, hinitial, hempty]
  unfold Upload.defaultOf Upload.answerOf
  cases spec.multiple.truthy with
  | true =>
      simp [Default.isGiven, Default.toAnswer, FileItem.toAnswer, FileInfo.toValue, Value.fields,
        UploadedFile.info]
  | false => cases files <;> rfl

/-- Files that are given to a file field make an answer. It is missing exactly when there are no
files, and then it is the empty answer of the field. The field can have it as its default and then
starts with it, and the files that it consists of make the same answer again. -/
theorem uploaded_answer_fits (h : field.IsDefined) (hspec : field.upload? = some spec)
    (hfiles : Upload.Gives values files) :
    ∃ answer, field.uploadAnswer values = .ok answer ∧
      (isMissing answer = true ↔ values = []) ∧ (values = [] → answer = field.emptyAnswer) ∧
      (∃ other, field.revise [("default_value", answer)] = .ok other ∧
        Answers.initial [other] = [(field.id, answer)]) ∧
      field.uploadAnswer (Upload.filesOf answer) = .ok answer := by
  obtain ⟨required, readOnly, initial, hbody⟩ := upload?_eq_some.1 hspec
  have hnone : values = [] ↔ files = [] := by
    rw [← List.length_eq_zero_iff, hfiles.length_eq, List.length_eq_zero_iff]
  have hrevised := revise_default hbody h.id (Upload.accepts_defaultOf spec files)
  rw [Upload.toValue_defaultOf] at hrevised
  refine ⟨_, uploadAnswer_eq hspec hfiles, ?_, ?_, ⟨_, hrevised, ?_⟩, ?_⟩
  · rw [Upload.isMissing_answerOf, hnone]
  · intro hempty
    rw [hnone.1 hempty, emptyAnswer_of_upload hspec, List.map_nil]
  · have hstarts : ({ field with
        body := .input ⟨required, readOnly, Upload.defaultOf spec files, .file spec⟩ } :
        Field).initialAnswer = Upload.answerOf spec (files.map UploadedFile.info) :=
      initialAnswer_of_defaultOf rfl
    rw [← hstarts]
    rfl
  · obtain ⟨kept, hgives, hsame⟩ := Upload.exists_gives_filesOf spec files
    rw [uploadAnswer_eq hspec hgives, hsame]

/-- A described photo, and a record that holds no more of a file than its name. -/
def twoPhotos : List Value :=
  [.file (.text "panel.jpg") (.int 2048) (.text "image/jpeg") (.text ""),
   .fields [("name", .text "roof.png")]]

/-- Two photos of a site can be the default of the field that asks for them. -/
theorem uploaded_answer_fits_photos :
    ∃ field spec files answer, field ∈ Example.inspection.fields ∧ field.IsDefined ∧
      field.upload? = some spec ∧ Upload.Gives twoPhotos files ∧
      field.uploadAnswer twoPhotos = .ok answer ∧ isMissing answer = false ∧
      (∃ other, field.revise [("default_value", answer)] = .ok other ∧
        Answers.initial [other] = [(field.id, answer)]) ∧
      field.uploadAnswer (Upload.filesOf answer) = .ok answer := by
  have hdefined : Example.inspection.fields[1].IsDefined := ⟨by decide, .absent _⟩
  have hfiles : Upload.Gives twoPhotos
      [⟨"panel.jpg", 2048, "image/jpeg", ""⟩, ⟨"roof.png", 0, "", ""⟩] :=
    .cons .described (.cons (.record rfl rfl rfl rfl) .nil)
  obtain ⟨answer, hanswer, hmissing, _, hrevised, hagain⟩ :=
    uploaded_answer_fits hdefined rfl hfiles
  have hgiven : isMissing answer = false :=
    Bool.eq_false_iff.2 (mt hmissing.1 (List.cons_ne_nil _ _))
  exact ⟨_, _, _, answer, List.getElem_mem _, hdefined, rfl, hfiles, hanswer, hgiven, hrevised,
    hagain⟩

end Field

end PagedForm
