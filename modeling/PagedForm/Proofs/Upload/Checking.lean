import PagedForm.Proofs.Upload.Answering

/-!
# Checking uploaded files

Files are checked together, first by size and, when none is too large, by type. `Upload.Matches`
says which types a pattern stands for, and `Upload.oversized` and `Upload.unaccepted` which files
are refused for either reason, without the code that checks them. The messages list just these
files, and there are none exactly when each file alone would be accepted.
-/

namespace PagedForm

/-- A field limits the size of its files to this number of megabytes: its own limit, or that of the
settings when it has none or zero. -/
inductive UploadSpec.LimitsTo (spec : UploadSpec) (settings : Settings) : Int → Prop where
  | own {megabytes : Int} : spec.maxSize = .int megabytes → megabytes ≠ 0 →
      spec.LimitsTo settings megabytes
  | usual {megabytes : Int} : spec.maxSize = .null ∨ spec.maxSize = .int 0 →
      settings.defaultMaxSize = .int megabytes → spec.LimitsTo settings megabytes

namespace Upload

/-- A type matches a pattern: the one for all types, the type itself, or the family of the part
before the slash. -/
inductive Matches (type : String) : String → Prop where
  | every : Matches type "*/*"
  | equal : Matches type type
  | family {family rest : String} : type = family ++ "/" ++ rest → Matches type (family ++ "/*")

/-! ## Patterns -/

/-- The pattern of a family ends in a slash and a star. -/
theorem isFamily_iff {pattern : String} :
    isFamily pattern = true ↔ ∃ family, pattern = family ++ "/*" := by
  simp only [isFamily, Bool.and_eq_true, decide_eq_true_eq]
  constructor
  · rintro ⟨hstar, hslash⟩
    obtain ⟨front, hfront⟩ := List.getLast?_eq_some_iff.1 hstar
    rw [hfront, List.dropLast_concat] at hslash
    obtain ⟨family, rfl⟩ := List.getLast?_eq_some_iff.1 hslash
    refine ⟨String.ofList family, String.toList_inj.1 ?_⟩
    simp [hfront]
  · rintro ⟨family, rfl⟩
    simp

/-- The types of a family begin with its name and a slash. -/
theorem isPrefixOf_iff {family type : String} :
    (family ++ "/*").toList.dropLast.isPrefixOf type.toList = true ↔
      ∃ rest, type = family ++ "/" ++ rest := by
  have hfront : (family ++ "/*").toList.dropLast = (family ++ "/").toList := by
    simp
  rw [List.isPrefixOf_iff_prefix, hfront]
  constructor
  · rintro ⟨rest, hrest⟩
    exact ⟨String.ofList rest, String.toList_inj.1 (by simp [← hrest])⟩
  · rintro ⟨rest, rfl⟩
    exact ⟨rest.toList, String.toList_append.symm⟩

/-- A type matches the pattern of a family when it begins like it. -/
theorem matches_family_iff {family type : String} (hne : family ++ "/*" ≠ "*/*") :
    Matches type (family ++ "/*") ↔ ∃ rest, type = family ++ "/" ++ rest := by
  constructor
  -- The pattern is an index of the relation, so the cases need it to be a variable.
  · generalize hpattern : family ++ "/*" = pattern at hne
    rintro (_ | _ | ⟨htype⟩)
    · exact absurd rfl hne
    · exact ⟨"*", by rw [← hpattern, String.append_assoc]; rfl⟩
    · obtain rfl := (String.append_left_inj _).1 hpattern
      exact ⟨_, htype⟩
  · rintro ⟨rest, htype⟩
    exact .family htype

/-- A type matches a pattern for one type when it is that type. -/
theorem matches_iff_eq {type pattern : String} (hne : pattern ≠ "*/*")
    (h : ¬ isFamily pattern = true) : Matches type pattern ↔ type = pattern := by
  constructor
  · rintro (_ | _ | htype)
    · exact absurd rfl hne
    · rfl
    · exact absurd (isFamily_iff.2 ⟨_, rfl⟩) h
  · rintro rfl
    exact .equal

instance (type pattern : String) : Decidable (Matches type pattern) :=
  if hevery : pattern = "*/*" then .isTrue (hevery ▸ .every)
  else if hfamily : isFamily pattern = true then
    decidable_of_iff (pattern.toList.dropLast.isPrefixOf type.toList = true) <| by
      obtain ⟨family, rfl⟩ := isFamily_iff.1 hfamily
      rw [isPrefixOf_iff, matches_family_iff hevery]
  else decidable_of_iff (type = pattern) (matches_iff_eq hevery hfamily).symm

/-- A pattern that is not the one for all types is for a family or for one type. -/
theorem matchesPattern_of_ne {pattern : String} (hne : pattern ≠ "*/*") (type : String) :
    matchesPattern (.text type) (.text pattern) =
      .ok (if isFamily pattern then pattern.toList.dropLast.isPrefixOf type.toList
        else type == pattern) := by
  have hevery : (Value.text pattern).isText "*/*" = false := by
    simpa [Value.isText, Value.same_text] using hne
  rw [matchesPattern, hevery, if_neg Bool.false_ne_true, Value.asText, Result.ok_bind]
  cases isFamily pattern <;> rfl

/-- Whether a type matches a pattern is found by comparing the texts. -/
theorem matchesPattern_text (type pattern : String) :
    matchesPattern (.text type) (.text pattern) = .ok (decide (Matches type pattern)) := by
  by_cases hevery : pattern = "*/*"
  · subst hevery
    rw [decide_eq_true Matches.every]
    rfl
  · by_cases hfamily : isFamily pattern = true
    · obtain ⟨family, rfl⟩ := isFamily_iff.1 hfamily
      rw [matchesPattern_of_ne hevery, if_pos hfamily, Except.ok.injEq, Bool.eq_iff_iff,
        isPrefixOf_iff, decide_eq_true_eq, matches_family_iff hevery]
    · rw [matchesPattern_of_ne hevery, if_neg hfamily, Except.ok.injEq, Bool.eq_iff_iff, beq_iff_eq,
        decide_eq_true_eq, matches_iff_eq hevery hfamily]

/-- A type is accepted when it matches one of the patterns. -/
theorem isAccepted_text (type : String) (patterns : List String) :
    isAccepted (.text type) (patterns.map .text) =
      .ok (decide (∃ pattern ∈ patterns, Matches type pattern)) := by
  induction patterns with
  | nil => simp [isAccepted]
  | cons pattern rest ih =>
      rw [List.map_cons, isAccepted, matchesPattern_text, Result.ok_bind, ih]
      by_cases h : Matches type pattern
      · simp [h]
        rfl
      · simp [h]

/-! ## Files that are refused -/

/-- The files that are larger than a number of megabytes. -/
def oversized (megabytes : Int) (files : List UploadedFile) : List UploadedFile :=
  files.filter fun file => megabytes * 1024 * 1024 < file.size

/-- The files whose type matches none of the patterns. Without patterns every type is accepted. -/
def unaccepted (patterns : List String) (files : List UploadedFile) : List UploadedFile :=
  files.filter fun file => patterns ≠ [] ∧ ∀ pattern ∈ patterns, ¬ Matches file.type pattern

/-- A message that lists files by name. -/
def listed (start : String) (files : List UploadedFile) : String :=
  start ++ ", ".intercalate (files.map UploadedFile.name)

variable {spec : UploadSpec} {settings : Settings} {megabytes : Int} {patterns : List String}
  {values : List Value} {files : List UploadedFile}

/-- The limit of a field in megabytes is the one that its files are checked by. -/
theorem limit_eq (h : spec.LimitsTo settings megabytes) :
    spec.limit settings = .int megabytes := by
  cases h with
  | own hown hne => simp [UploadSpec.limit, Value.orElse, Value.truthy, hown, hne]
  | usual hown husual =>
      rcases hown with hown | hown <;>
        simp [UploadSpec.limit, Value.orElse, Value.truthy, hown, husual]

/-- A limit in bytes is compared with the size of a file. -/
theorem isOversized_info (megabytes : Int) (file : UploadedFile) :
    isOversized (.int (megabytes * (twoTo bytesPower : Int))) file.info =
      .ok (decide (megabytes * 1024 * 1024 < file.size)) := by
  have hbytes : megabytes * (twoTo bytesPower : Int) = megabytes * 1024 * 1024 := by
    rw [Int.mul_assoc]
    rfl
  simp [isOversized, UploadedFile.info, stretched, Value.above?, Value.atomAbove?, Atom.number?,
    Extended.less_ofInt, hbytes]

/-- Files are sorted out by a test that tells each of them apart. -/
theorem filterM_info {test : FileInfo → Result Bool} {holds : UploadedFile → Bool}
    (h : ∀ file, test file.info = .ok (holds file)) (files : List UploadedFile) :
    filterM test (files.map UploadedFile.info) =
      .ok ((files.filter holds).map UploadedFile.info) := by
  induction files with
  | nil => rfl
  | cons file rest ih =>
      rw [List.map_cons, filterM, h, Result.ok_bind, ih, Result.ok_bind]
      cases hholds : holds file <;> simp [hholds] <;> rfl

/-- The files over a limit in bytes are sorted out. -/
theorem filterM_isOversized (megabytes : Int) (files : List UploadedFile) :
    filterM (isOversized (.int (megabytes * (twoTo bytesPower : Int))))
      (files.map UploadedFile.info) = .ok ((oversized megabytes files).map UploadedFile.info) :=
  filterM_info (isOversized_info megabytes) files

/-- The files that no pattern accepts are sorted out. -/
theorem filterM_isAccepted {patterns : List String} (hne : patterns ≠ [])
    (files : List UploadedFile) :
    filterM (fun info => (isAccepted info.type (patterns.map .text)).map not)
      (files.map UploadedFile.info) = .ok ((unaccepted patterns files).map UploadedFile.info) := by
  refine filterM_info (fun file => ?_) files
  rw [UploadedFile.info, isAccepted_text, Except.map, Except.ok.injEq, Bool.eq_iff_iff]
  simp [hne]

/-- Files are listed by their names. -/
theorem listFiles_info (start : String) (files : List UploadedFile) :
    listFiles start (files.map UploadedFile.info) = .ok (listed start files) := by
  have hnames : (files.map UploadedFile.info).map FileInfo.name =
      (files.map UploadedFile.name).map .text := by
    simp [UploadedFile.info]
  rw [listFiles, hnames, Value.joinTexts_map_text]
  rfl

/-- The messages for files: about those that are too large or, when there are none, about those of
other types. -/
def verdict (megabytes : Int) (patterns : List String) (files : List UploadedFile) :
    List String :=
  if oversized megabytes files ≠ [] then
    [listed "Files too large: " (oversized megabytes files)]
  else if unaccepted patterns files ≠ [] then
    [listed "Invalid file types: " (unaccepted patterns files)]
  else []

/-- The check of files gives the messages. -/
theorem problems_eq (hlimit : spec.LimitsTo settings megabytes)
    (hpatterns : spec.acceptedTypes = patterns.map .text) (files : List UploadedFile) :
    problems spec settings (files.map UploadedFile.info) =
      .ok (verdict megabytes patterns files) := by
  rw [problems, limit_eq hlimit, limitInBytes, Result.ok_bind, filterM_isOversized, Result.ok_bind,
    hpatterns, verdict]
  by_cases hlarge : oversized megabytes files = []
  · rw [if_neg (not_not_intro hlarge), hlarge, List.map_nil, if_neg (by simp)]
    -- Without patterns the types are not looked at.
    by_cases hne : patterns = []
    · rw [if_pos (by simp [hne]), if_neg (by simp [unaccepted, hne])]
      rfl
    · rw [if_neg (by simp [hne]), filterM_isAccepted hne, Result.ok_bind]
      by_cases htypes : unaccepted patterns files = []
      · rw [if_neg (not_not_intro htypes), htypes]
        rfl
      · rw [if_pos htypes, if_neg (by simpa using htypes), listFiles_info]
        rfl
  · rw [if_pos hlarge, if_pos (by simpa using hlarge), listFiles_info]
    rfl

/-- There are no messages exactly when no file is too large and the type of each is accepted. -/
theorem verdict_eq_nil_iff :
    verdict megabytes patterns files = [] ↔
      ∀ file ∈ files, ¬ megabytes * 1024 * 1024 < file.size ∧
        (patterns = [] ∨ ∃ pattern ∈ patterns, Matches file.type pattern) := by
  have hempty : verdict megabytes patterns files = [] ↔
      oversized megabytes files = [] ∧ unaccepted patterns files = [] := by
    unfold verdict
    by_cases hlarge : oversized megabytes files = [] <;>
      by_cases htypes : unaccepted patterns files = [] <;> simp [hlarge, htypes]
  rw [hempty, oversized, unaccepted, List.filter_eq_nil_iff, List.filter_eq_nil_iff,
    ← forall₂_and]
  refine forall₂_congr fun file _ => and_congr (by simp) ?_
  rw [decide_eq_true_eq, not_and_or, not_not]
  push Not
  rfl

/-- Files are accepted together exactly when each of them is accepted alone. -/
theorem verdict_eq_nil_iff_singleton :
    verdict megabytes patterns files = [] ↔
      ∀ file ∈ files, verdict megabytes patterns [file] = [] := by
  simp only [verdict_eq_nil_iff, List.forall_mem_singleton]

/-- What holds of every value holds of every file that the values give. -/
theorem Gives.forall_iff {P : Value → Prop} {Q : UploadedFile → Prop} (h : Gives values files)
    (hPQ : ∀ value file, file.IsGivenBy value → (P value ↔ Q file)) :
    (∀ value ∈ values, P value) ↔ ∀ file ∈ files, Q file := by
  induction h with
  | nil => simp
  | cons hgiven _ ih => rw [List.forall_mem_cons, List.forall_mem_cons, hPQ _ _ hgiven, ih]

end Upload

namespace Field

variable {field : Field} {spec : UploadSpec} {settings : Settings} {megabytes : Int}
  {patterns : List String} {values : List Value} {files : List UploadedFile}

/-- The check of a file field gives the messages for the files. -/
theorem checkUpload_eq (hspec : field.upload? = some spec)
    (hlimit : spec.LimitsTo settings megabytes)
    (hpatterns : spec.acceptedTypes = patterns.map .text) (h : Upload.Gives values files) :
    field.checkUpload values settings = .ok (Upload.verdict megabytes patterns files) := by
  simp [checkUpload, h.mapM_ofValue, asUpload, hspec, Result.ok_bind,
    Upload.problems_eq hlimit hpatterns]

/-- Files that are given to a file field with a limit in whole megabytes are checked. There are no
messages exactly when there are none for each file alone. Otherwise there is one: it lists the files
that are too large or, when there are none, those whose type matches no pattern. -/
theorem uploads_checked_per_file (hspec : field.upload? = some spec)
    (hlimit : spec.LimitsTo settings megabytes)
    (hpatterns : spec.acceptedTypes = patterns.map .text) (hfiles : Upload.Gives values files) :
    ∃ messages, field.checkUpload values settings = .ok messages ∧
      (messages = [] ↔ ∀ value ∈ values, field.checkUpload [value] settings = .ok []) ∧
      (Upload.oversized megabytes files ≠ [] →
        messages = [Upload.listed "Files too large: " (Upload.oversized megabytes files)]) ∧
      (Upload.oversized megabytes files = [] → Upload.unaccepted patterns files ≠ [] →
        messages = [Upload.listed "Invalid file types: " (Upload.unaccepted patterns files)]) ∧
      (Upload.oversized megabytes files = [] → Upload.unaccepted patterns files = [] →
        messages = []) := by
  refine ⟨_, checkUpload_eq hspec hlimit hpatterns hfiles, ?_, ?_, ?_, ?_⟩
  · rw [Upload.verdict_eq_nil_iff_singleton]
    refine (hfiles.forall_iff fun value file hgiven => ?_).symm
    rw [checkUpload_eq hspec hlimit hpatterns (.cons hgiven .nil), Except.ok.injEq]
  · intro hlarge
    rw [Upload.verdict, if_pos hlarge]
  · intro hlarge htypes
    rw [Upload.verdict, if_neg (not_not_intro hlarge), if_pos htypes]
  · intro hlarge htypes
    rw [Upload.verdict, if_neg (not_not_intro hlarge), if_neg (not_not_intro htypes)]

/-- A photo of just the largest size, one that is a byte larger, and a plan that is no photo. -/
def largePhotos : List UploadedFile :=
  [⟨"panel.jpg", 25 * 1024 * 1024, "image/jpeg", ""⟩,
   ⟨"roof.png", 25 * 1024 * 1024 + 1, "image/png", ""⟩, ⟨"plan.pdf", 2048, "application/pdf", ""⟩]

/-- Of the files only the one over the limit is listed as long as it is there. -/
theorem uploads_checked_per_file_photos :
    ∃ field spec, field ∈ Example.inspection.fields ∧ field.upload? = some spec ∧
      spec.LimitsTo .standard 25 ∧ spec.acceptedTypes = ["image/*"].map .text ∧
      Upload.Gives (largePhotos.map fun file => file.info.toValue) largePhotos ∧
      field.checkUpload (largePhotos.map fun file => file.info.toValue) .standard =
        .ok ["Files too large: roof.png"] := by
  have hspec : Example.inspection.fields[1].upload? =
      some ⟨Example.options ["image/*"], .int 25, .bool true, .text "environment"⟩ := rfl
  have hlimit : UploadSpec.LimitsTo
      ⟨Example.options ["image/*"], .int 25, .bool true, .text "environment"⟩ .standard 25 :=
    .own rfl (by decide)
  have hfiles := Upload.gives_toValue largePhotos
  obtain ⟨messages, hchecked, _, hlarge, _⟩ := uploads_checked_per_file hspec hlimit rfl hfiles
  rw [hlarge (by decide)] at hchecked
  exact ⟨_, _, List.getElem_mem _, hspec, hlimit, rfl, hfiles, hchecked⟩

end Field

end PagedForm
