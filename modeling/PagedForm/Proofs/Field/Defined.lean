import PagedForm.Field.Fresh
import PagedForm.Proofs.Results

/-!
# Which fields can be defined

A field can be defined when its id is not empty and its default is absent, a reference, or in the
shape of its answers. `Field.build_eq_ok` takes the definition of a field apart, and
`Field.isDefined_iff` says that the fields which can be defined are those that some attributes
give. Such a field is given again by its own attributes.
-/

namespace PagedForm

/-- The defaults that an input may have: none, a reference, or an answer in the shape that belongs
to its kind. -/
inductive Entry.Accepts : Entry → Default → Prop where
  | absent (entry : Entry) : Accepts entry .absent
  | reference (entry : Entry) {s : String} : Template.isReference s = true →
      Accepts entry (.text s)
  | text {entry : Entry} (s : String) : entry.kind ≠ .checkbox → entry.kind ≠ .file →
      Accepts entry (.text s)
  | choices (options : List Value) (items : List String) :
      Accepts (.checkbox options) (.choices items)
  | file {spec : UploadSpec} (item : FileItem) : spec.multiple.truthy = false →
      Accepts (.file spec) (.file item)
  | files {spec : UploadSpec} (items : List FileItem) : spec.multiple.truthy = true →
      Accepts (.file spec) (.files items)

/-- The default of a body is one that it may have. -/
def Body.Accepts : Body → Prop
  | .title => True
  | .readonly initial => initial = .absent ∨ ∃ s, initial = .text s
  | .input i => i.entry.Accepts i.initial

/-- A field that can be defined: its id is not empty and its default is one that it may have. -/
structure Field.IsDefined (field : Field) : Prop where
  id : field.id ≠ ""
  body : field.body.Accepts

/-! ## Defaults -/

/-- Where an item is read exactly from what it is written as, so is a list of items. -/
theorem mapM_eq_some_iff {α β : Type} {read : α → Option β} {write : β → α}
    (h : ∀ a b, read a = some b ↔ write b = a) {items : List α} {results : List β} :
    items.mapM read = some results ↔ results.map write = items := by
  induction items generalizing results with
  | nil => cases results <;> simp
  | cons item rest ih =>
      cases results with
      | nil => simp [List.mapM_cons, Option.bind_eq_some_iff]
      | cons result others => simp [List.mapM_cons, Option.bind_eq_some_iff, h, ih]

/-- A text is read from the value that it is. -/
theorem Value.text?_eq_some (value : Value) (s : String) :
    value.text? = some s ↔ Value.text s = value := by
  constructor
  · intro h
    unfold text? at h
    split at h
    · cases h
      rfl
    · cases h
  · rintro rfl
    rfl

namespace Default

/-- A file is read from the value that it is. -/
theorem fileItem?_eq_some (value : Value) (item : FileItem) :
    fileItem? value = some item ↔ item.toValue = value := by
  constructor
  · intro h
    unfold fileItem? at h
    split at h
    · cases h
      rfl
    · cases h
      rfl
    · cases h
  · rintro rfl
    cases item <;> rfl

variable {id : String} {value : Value} {initial : Default}

/-- The defaults of a field that holds text. -/
theorem ofText_eq_ok :
    ofText id value = .ok initial ↔
      (initial = .absent ∨ ∃ s, initial = .text s) ∧ initial.toValue = value := by
  constructor
  · intro h
    unfold ofText at h
    split at h
    · cases h
      exact ⟨.inl rfl, rfl⟩
    · cases h
      exact ⟨.inr ⟨_, rfl⟩, rfl⟩
    · cases h
  · rintro ⟨rfl | ⟨s, rfl⟩, rfl⟩
    · rfl
    · rfl

/-- The defaults of a field that holds several options. -/
theorem ofChoices_eq_ok {options : List Value} :
    ofChoices id value = .ok initial ↔
      (Entry.checkbox options).Accepts initial ∧ initial.toValue = value := by
  constructor
  · intro h
    unfold ofChoices at h
    split at h
    · cases h
      exact ⟨.absent _, rfl⟩
    · split at h
      · next href =>
          cases h
          exact ⟨.reference _ href, rfl⟩
      · cases h
    · split at h
      · next texts htexts =>
          cases h
          exact ⟨.choices _ _,
            congrArg Value.list ((mapM_eq_some_iff Value.text?_eq_some).1 htexts)⟩
      · cases h
    · cases h
  · rintro ⟨haccepts, rfl⟩
    cases haccepts with
    | absent => rfl
    | reference _ href => simp [toValue, ofChoices, href]
    | text _ hkind => exact absurd rfl hkind
    | choices _ items =>
        have htexts : (items.map Value.text).mapM Value.text? = some items :=
          (mapM_eq_some_iff Value.text?_eq_some).2 rfl
        simp [toValue, Value.texts, ofChoices, htexts]

/-- The defaults of a field that holds one file. -/
theorem ofFile_eq_ok {spec : UploadSpec} (hmultiple : spec.multiple.truthy = false) :
    ofFile id value = .ok initial ↔
      (Entry.file spec).Accepts initial ∧ initial.toValue = value := by
  constructor
  · intro h
    unfold ofFile at h
    split at h
    · cases h
      exact ⟨.absent _, rfl⟩
    · split at h
      · next href =>
          cases h
          exact ⟨.reference _ href, rfl⟩
      · cases h
    · split at h
      · next item hitem =>
          cases h
          exact ⟨.file _ hmultiple, (fileItem?_eq_some _ _).1 hitem⟩
      · cases h
  · rintro ⟨haccepts, rfl⟩
    cases haccepts with
    | absent => rfl
    | reference _ href => simp [toValue, ofFile, href]
    | text _ _ hkind => exact absurd rfl hkind
    | file item => cases item <;> rfl
    | files _ hseveral => exact absurd hmultiple (by simp [hseveral])

/-- The defaults of a field that holds several files. -/
theorem ofFiles_eq_ok {spec : UploadSpec} (hmultiple : spec.multiple.truthy = true) :
    ofFiles id value = .ok initial ↔
      (Entry.file spec).Accepts initial ∧ initial.toValue = value := by
  constructor
  · intro h
    unfold ofFiles at h
    split at h
    · cases h
      exact ⟨.absent _, rfl⟩
    · split at h
      · next href =>
          cases h
          exact ⟨.reference _ href, rfl⟩
      · cases h
    · split at h
      · next found hfound =>
          cases h
          exact ⟨.files _ hmultiple,
            congrArg Value.list ((mapM_eq_some_iff fileItem?_eq_some).1 hfound)⟩
      · cases h
    · cases h
  · rintro ⟨haccepts, rfl⟩
    cases haccepts with
    | absent => rfl
    | reference _ href => simp [toValue, ofFiles, href]
    | text _ _ hkind => exact absurd rfl hkind
    | file _ hsingle => exact absurd hmultiple (by simp [hsingle])
    | files items =>
        have hitems : (items.map FileItem.toValue).mapM fileItem? = some items :=
          (mapM_eq_some_iff fileItem?_eq_some).2 rfl
        simp [toValue, ofFiles, hitems]

/-- The defaults of an input are those that its entry accepts, each given by its own value. -/
theorem ofEntry_eq_ok {entry : Entry} :
    ofEntry entry id value = .ok initial ↔ entry.Accepts initial ∧ initial.toValue = value := by
  have htext (hcheckbox : entry.kind ≠ .checkbox) (hfile : entry.kind ≠ .file) :
      entry.Accepts initial ↔ initial = .absent ∨ ∃ s, initial = .text s := by
    constructor
    · intro haccepts
      cases haccepts with
      | absent => exact .inl rfl
      | reference _ _ => exact .inr ⟨_, rfl⟩
      | text s _ _ => exact .inr ⟨s, rfl⟩
      | choices => exact absurd rfl hcheckbox
      | file => exact absurd rfl hfile
      | files => exact absurd rfl hfile
    · rintro (rfl | ⟨s, rfl⟩)
      · exact .absent _
      · exact .text s hcheckbox hfile
  cases entry with
  | checkbox options => exact ofChoices_eq_ok
  | file spec =>
      cases hmultiple : spec.multiple.truthy with
      | true => simpa [ofEntry, hmultiple] using ofFiles_eq_ok hmultiple
      | false => simpa [ofEntry, hmultiple] using ofFile_eq_ok hmultiple
  | text | textarea | select | radio =>
      rw [htext (by simp [Entry.kind]) (by simp [Entry.kind])]
      exact ofText_eq_ok

end Default

/-! ## Defining a field -/

namespace Field

variable {kind : FieldKind} {attrs : Table Value} {field : Field}

/-- A result without a field fault stays as it is. -/
theorem orFault_eq_ok {α : Type} {result : Except FieldFault α} {a : α} :
    orFault result = .ok a ↔ result = .ok a := by
  cases result <;> simp [orFault]

/-- The id among the attributes is a text that is not empty. -/
theorem checkId_eq_ok {id : String} :
    checkId attrs = .ok id ↔ attrs.find? "id" = some (.text id) ∧ id ≠ "" := by
  unfold checkId
  split
  · next s hid =>
      rw [hid, Option.some.injEq, Value.atom.injEq, Atom.text.injEq]
      split
      · next hempty =>
          refine ⟨fun h => (by cases h), ?_⟩
          rintro ⟨rfl, hne⟩
          exact absurd (by simpa using hempty) hne
      · next hgiven =>
          constructor
          · intro h
            cases h
            exact ⟨rfl, fun hempty => hgiven (by simp [hempty])⟩
          · rintro ⟨rfl, _⟩
            rfl
  · next hnot =>
      exact ⟨fun h => (by cases h), fun h => absurd h.1 (hnot id)⟩

/-- A field is built from attributes that its kind has and an id that is not empty; its body comes
from the entry of its kind and a default that fits it. -/
theorem build_eq_ok :
    build kind attrs = .ok field ↔
      (∀ name ∈ attrs.keys, name ∈ kind.attributes) ∧
      attrs.find? "id" = some (.text field.id) ∧ field.id ≠ "" ∧
      field.title = valueOf attrs "title" (.text "") ∧
      field.dependsOn = valueOf attrs "depends_on" .null ∧
      field.showWhen = valueOf attrs "show_when" .null ∧
      ∃ entry, entryOf kind attrs = .ok entry ∧
        bodyOf kind entry field.id attrs = .ok field.body := by
  constructor
  · intro h
    unfold build at h
    by_cases hkeys : attrs.keys.any (fun name => !kind.attributes.contains name) = true
    · rw [if_pos hkeys] at h
      cases h
    · rw [if_neg hkeys] at h
      dsimp only at h
      by_cases hgiven : (!attrs.has "id") = true
      · rw [if_pos hgiven] at h
        cases h
      · rw [if_neg hgiven] at h
        obtain ⟨entry, hentry, h⟩ := Result.bind_eq_ok.1 h
        obtain ⟨id, hid, h⟩ := Result.bind_eq_ok.1 h
        obtain ⟨body, hbody, h⟩ := Result.bind_eq_ok.1 h
        cases h
        obtain ⟨hfind, hne⟩ := checkId_eq_ok.1 (orFault_eq_ok.1 hid)
        exact ⟨by simpa using hkeys, hfind, hne, rfl, rfl, rfl, entry, hentry,
          orFault_eq_ok.1 hbody⟩
  · rintro ⟨hkeys, hfind, hne, htitle, hdepends, hshow, entry, hentry, hbody⟩
    have hknown : ¬ attrs.keys.any (fun name => !kind.attributes.contains name) = true := by
      simpa using hkeys
    have hgiven : ¬ (!attrs.has "id") = true := by
      simp [Table.has, hfind]
    unfold build
    rw [if_neg hknown]
    dsimp only
    rw [if_neg hgiven]
    refine Result.bind_eq_ok.2 ⟨entry, hentry, Result.bind_eq_ok.2 ⟨field.id, ?_, ?_⟩⟩
    · exact orFault_eq_ok.2 (checkId_eq_ok.2 ⟨hfind, hne⟩)
    · refine Result.bind_eq_ok.2 ⟨field.body, orFault_eq_ok.2 hbody, ?_⟩
      rw [← htitle, ← hdepends, ← hshow]
      rfl

/-- The body of a field without an entry is a heading or a read-only text, and the body of one with
an entry is an input with it. A default is the one among the attributes. -/
theorem bodyOf_cases {entry : Option Entry} {id : String} {body : Body}
    (h : bodyOf kind entry id attrs = .ok body) :
    (entry = none ∧ kind ≠ .readonly ∧ body = .title) ∨
    (∃ initial, entry = none ∧ body = .readonly initial ∧
      (initial = .absent ∨ ∃ s, initial = .text s) ∧
      initial.toValue = valueOf attrs "default_value" .null) ∨
    ∃ e initial, entry = some e ∧ e.Accepts initial ∧
      initial.toValue = valueOf attrs "default_value" .null ∧
      body = .input ⟨valueOf attrs "required" (.bool false),
        valueOf attrs "read_only" (.bool false), initial, e⟩ := by
  cases entry with
  | none =>
      simp only [bodyOf] at h
      split at h
      · obtain ⟨initial, hinitial, rfl⟩ := Result.map_eq_ok.1 h
        obtain ⟨haccepts, hvalue⟩ := Default.ofText_eq_ok.1 hinitial
        exact .inr (.inl ⟨initial, rfl, rfl, haccepts, hvalue⟩)
      · next hkind =>
          cases h
          exact .inl ⟨rfl, hkind, rfl⟩
  | some e =>
      simp only [bodyOf] at h
      obtain ⟨initial, hinitial, rfl⟩ := Result.map_eq_ok.1 h
      obtain ⟨haccepts, hvalue⟩ := Default.ofEntry_eq_ok.1 hinitial
      exact .inr (.inr ⟨e, initial, rfl, haccepts, hvalue, rfl⟩)

/-- The body of a built field has a default that it may have. -/
theorem accepts_of_bodyOf {entry : Option Entry} {id : String} {body : Body}
    (h : bodyOf kind entry id attrs = .ok body) : body.Accepts := by
  rcases bodyOf_cases h with ⟨_, _, rfl⟩ | ⟨_, _, rfl, hinitial, _⟩ | ⟨_, _, _, haccepts, _, rfl⟩
  · trivial
  · exact hinitial
  · exact haccepts

/-- A built field can be defined. -/
theorem isDefined_of_build (h : build kind attrs = .ok field) : field.IsDefined := by
  obtain ⟨_, _, hid, _, _, _, entry, _, hbody⟩ := build_eq_ok.1 h
  exact ⟨hid, accepts_of_bodyOf hbody⟩

/-- A field that can be defined is built from its own attributes. -/
theorem IsDefined.build_attributes (h : field.IsDefined) :
    build field.kind field.attributes = .ok field := by
  have hkeys : ∀ name ∈ field.attributes.keys, name ∈ field.kind.attributes := by
    rw [keys_attributes]
    exact fun name hname => hname
  refine build_eq_ok.2 ⟨hkeys, rfl, h.id, rfl, rfl, rfl, ?_⟩
  cases field using Field.bodyCases with
  | title => exact ⟨none, rfl, rfl⟩
  | readonly id title dependsOn showWhen initial =>
      have hinitial : Default.ofText id initial.toValue = .ok initial :=
        Default.ofText_eq_ok.2 ⟨h.body, rfl⟩
      exact ⟨none, rfl, congrArg (Except.map Body.readonly) hinitial⟩
  | input id title dependsOn showWhen required readOnly initial entry =>
      have hinitial : Default.ofEntry entry id initial.toValue = .ok initial :=
        Default.ofEntry_eq_ok.2 ⟨h.body, rfl⟩
      exact ⟨some entry, by cases entry <;> rfl, congrArg
        (Except.map fun start => Body.input ⟨required, readOnly, start, entry⟩) hinitial⟩

/-- A field that can be defined is converted into one, since its default is dropped. -/
theorem IsDefined.convert (h : field.IsDefined) (kind : FieldKind) :
    (field.convert kind).IsDefined := by
  unfold Field.convert
  split
  · exact h
  · refine ⟨h.id, ?_⟩
    cases kind with
    | title => trivial
    | readonly => exact .inl rfl
    | text | textarea | select | radio | checkbox | file => exact .absent _

/-- Reporting a fault of type as a field fault does not change which fields are given. -/
theorem define_eq_ok : define kind attrs = .ok field ↔ build kind attrs = .ok field := by
  unfold define
  split
  · next hbuild => simp [hbuild]
  · rfl

/-- The fields that can be defined are those that some attributes define. -/
theorem isDefined_iff : field.IsDefined ↔ ∃ kind attrs, define kind attrs = .ok field := by
  constructor
  · intro h
    exact ⟨field.kind, field.attributes, define_eq_ok.2 h.build_attributes⟩
  · rintro ⟨kind, attrs, h⟩
    exact isDefined_of_build (define_eq_ok.1 h)

end Field

end PagedForm
