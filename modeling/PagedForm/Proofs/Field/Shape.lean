import PagedForm.Field.Answer
import PagedForm.Proofs.Field.Defined

/-!
# Shapes of answers

The kind of a field decides the shape of its answers: a text, a list of texts, the record of a file
or a list of such records. A default has the same shapes, except that a file may also be given as a
described upload. A field that can be defined has a default in its own shape, a reference or none,
and so the answer that it starts with is in its shape, a reference or empty.
-/

namespace PagedForm

/-- The shapes of answers. -/
inductive AnswerShape where
  | text
  | texts
  | file
  | files
  deriving DecidableEq, Repr

namespace AnswerShape

/-- A value is an answer of a shape. -/
def Holds : AnswerShape → Value → Prop
  | .text, value => ∃ s, value = .text s
  | .texts, value => ∃ items, value = .texts items
  | .file, value => ∃ entries, value = .record entries
  | .files, value => ∃ items, value = .list items ∧ ∀ item ∈ items, ∃ entries, item = .record entries

/-- The empty answer of a shape. -/
def empty : AnswerShape → Value
  | .text => .text ""
  | .file => .null
  | .texts | .files => .list []

end AnswerShape

/-- The shape of the answers to a field of a kind. Only a file field may take several answers. -/
def FieldKind.shape (kind : FieldKind) (several : Bool) : AnswerShape :=
  match kind with
  | .checkbox => .texts
  | .file => if several then .files else .file
  | _ => .text

/-- The shape of the answers that are entered in this way. -/
def Entry.shape : Entry → AnswerShape
  | .checkbox _ => .texts
  | .file spec => if spec.multiple.truthy then .files else .file
  | _ => .text

/-- The shape of the answers to a field. -/
def Field.shape (field : Field) : AnswerShape :=
  match field.body with
  | .input i => i.entry.shape
  | _ => .text

/-- A file given as a default is a record as an answer. -/
theorem FileItem.exists_toAnswer_eq (item : FileItem) :
    ∃ entries, item.toAnswer = .record entries := by
  cases item with
  | described info => exact ⟨_, rfl⟩
  | record entries => exact ⟨entries, rfl⟩

namespace Default

/-- The shape of a default, if there is one. -/
def shape? : Default → Option AnswerShape
  | .absent => none
  | .text _ => some .text
  | .choices _ => some .texts
  | .file _ => some .file
  | .files _ => some .files

/-- A default is absent, a reference, or in this shape. -/
def Fits (initial : Default) (shape : AnswerShape) : Prop :=
  initial = .absent ∨ (∃ s, initial = .text s ∧ Template.isReference s = true) ∨
    initial.shape? = some shape

/-- A default in a shape is an answer of that shape. -/
theorem holds_toAnswer {initial : Default} {shape : AnswerShape}
    (h : initial.shape? = some shape) : shape.Holds initial.toAnswer := by
  cases initial with
  | absent => cases h
  | text s =>
      cases h
      exact ⟨s, rfl⟩
  | choices items =>
      cases h
      exact ⟨items, rfl⟩
  | file item =>
      cases h
      exact item.exists_toAnswer_eq
  | files items =>
      cases h
      exact ⟨_, rfl, List.forall_mem_map.2 fun item _ => item.exists_toAnswer_eq⟩

/-- A default that is given is not absent. -/
theorem isGiven_iff {initial : Default} : initial.isGiven = true ↔ initial ≠ .absent := by
  cases initial <;> simp [isGiven]

end Default

/-- What an entry accepts as a default fits the shape of its answers. -/
theorem Entry.Accepts.fits {entry : Entry} {initial : Default} (h : entry.Accepts initial) :
    initial.Fits entry.shape := by
  cases h with
  | absent => exact .inl rfl
  | reference _ href => exact .inr (.inl ⟨_, rfl, href⟩)
  | text s hcheckbox hfile =>
      refine .inr (.inr ?_)
      cases entry with
      | checkbox => exact absurd rfl hcheckbox
      | file => exact absurd rfl hfile
      | text | textarea | select | radio => rfl
  | choices => exact .inr (.inr rfl)
  | file item hsingle => exact .inr (.inr (by simp [Default.shape?, shape, hsingle]))
  | files items hseveral => exact .inr (.inr (by simp [Default.shape?, shape, hseveral]))

namespace Field

variable {kind : FieldKind} {attrs : Table Value} {field : Field}

/-- The empty answer of a field is that of its shape. -/
theorem emptyAnswer_eq (field : Field) : field.emptyAnswer = field.shape.empty := by
  cases field using Field.bodyCases with
  | title => rfl
  | readonly => rfl
  | input _ _ _ _ _ _ _ entry =>
      cases entry with
      | file spec =>
          simp only [emptyAnswer, shape, Entry.shape]
          split <;> rfl
      | text | textarea | select | radio | checkbox => rfl

/-- The default of a field that can be defined fits the shape of its answers. -/
theorem IsDefined.fits (h : field.IsDefined) : field.initial.Fits field.shape := by
  obtain ⟨_, hbody⟩ := h
  cases field using Field.bodyCases with
  | title => exact .inl rfl
  | readonly _ _ _ _ initial =>
      rcases hbody with hnone | ⟨s, hs⟩
      · exact .inl hnone
      · exact .inr (.inr (congrArg Default.shape? hs))
  | input _ _ _ _ _ _ initial entry => exact hbody.fits

/-- Only headings and read-only texts have no entry. -/
theorem kind_of_entryOf (h : entryOf kind attrs = .ok none) :
    kind = .title ∨ kind = .readonly := by
  cases kind with
  | title => exact .inl rfl
  | readonly => exact .inr rfl
  | text | textarea => cases h
  | select | radio | checkbox | file =>
      obtain ⟨_, _, hother⟩ := Result.map_eq_ok.1 h
      cases hother

/-- The shape of an entry is that of its kind; a file may be one of several if the attributes say
so. -/
theorem shape_of_entryOf {entry : Entry} (h : entryOf kind attrs = .ok (some entry)) :
    entry.shape = kind.shape (valueOf attrs "multiple" (.bool false)).truthy := by
  cases kind with
  | title | readonly => cases h
  | text | textarea =>
      cases h
      rfl
  | select | radio | checkbox | file =>
      obtain ⟨_, _, heq⟩ := Result.map_eq_ok.1 h
      cases heq
      rfl

/-- The attributes of a built field say of which shape its answers are. -/
theorem shape_of_build (h : build kind attrs = .ok field) :
    field.shape = kind.shape (valueOf attrs "multiple" (.bool false)).truthy := by
  obtain ⟨_, _, _, _, _, _, entry, hentry, hbody⟩ := build_eq_ok.1 h
  unfold shape
  rcases bodyOf_cases hbody with
    ⟨rfl, _, htitle⟩ | ⟨_, rfl, hreadonly, _⟩ | ⟨_, _, rfl, _, _, hinput⟩
  · rw [htitle]
    rcases kind_of_entryOf hentry with rfl | rfl <;> rfl
  · rw [hreadonly]
    rcases kind_of_entryOf hentry with rfl | rfl <;> rfl
  · rw [hinput]
    exact shape_of_entryOf hentry

/-- The default of a built field is the one among its attributes. -/
theorem initial_of_build (h : build kind attrs = .ok field) :
    field.initial.toValue = valueOf attrs "default_value" .null := by
  obtain ⟨hkeys, _, _, _, _, _, entry, hentry, hbody⟩ := build_eq_ok.1 h
  unfold initial
  rcases bodyOf_cases hbody with
    ⟨rfl, hkind, htitle⟩ | ⟨_, _, hreadonly, _, hvalue⟩ | ⟨_, _, _, _, hvalue, hinput⟩
  · obtain rfl := (kind_of_entryOf hentry).resolve_right hkind
    -- A heading has no default among its attributes.
    have hnone : attrs.find? "default_value" = none :=
      Table.find?_eq_none.2 fun hkey => absurd (hkeys _ hkey) (by decide)
    rw [htitle, valueOf, hnone]
    rfl
  · rw [hreadonly]
    exact hvalue
  · rw [hinput]
    exact hvalue

/-- A field without a default starts with the empty answer of its shape. -/
theorem initialAnswer_of_absent (h : field.initial = .absent) :
    field.initialAnswer = field.shape.empty := by
  rw [initialAnswer, h, ← emptyAnswer_eq]
  rfl

/-- A field with a default that fits its shape starts with a reference or with an answer of that
shape. -/
theorem initialAnswer_of_fits (h : field.initial.Fits field.shape)
    (hgiven : field.initial ≠ .absent) :
    (∃ s, Template.isReference s = true ∧ field.initialAnswer = .text s) ∨
      field.shape.Holds field.initialAnswer := by
  rw [initialAnswer, if_pos (Default.isGiven_iff.2 hgiven)]
  rcases h with hnone | ⟨s, hs, href⟩ | hshape
  · exact absurd hnone hgiven
  · exact .inl ⟨s, href, congrArg Default.toAnswer hs⟩
  · exact .inr (Default.holds_toAnswer hshape)

end Field

end PagedForm
