import PagedForm.Proofs.Field.Defined

/-!
# Fields whose attributes have their types

Only the id and the default of a field are checked, but every attribute is meant to have a type:
the title is a text, a flag is a truth value, the options are texts. `AttributeType.ofName` gives
the type of each attribute, and a field is typed when it can be defined and its attributes have
their types. Attributes that have their types give a typed field, and a typed field of one kind is
converted into a typed field of another.
-/

namespace PagedForm

/-- The types of attributes. -/
inductive AttributeType where
  | text
  | optionalText
  | flag
  | texts
  | optionalNumber
  | any
  deriving DecidableEq, Repr

namespace AttributeType

/-- A value is of a type. -/
def Admits : AttributeType → Value → Prop
  | .text, value => ∃ s, value = .text s
  | .optionalText, value => value = .null ∨ ∃ s, value = .text s
  | .flag, value => ∃ b, value = .bool b
  | .texts, value => ∃ items : List String, value = .texts items
  | .optionalNumber, value =>
      value = .null ∨ ∃ a : Atom, value = .atom a ∧ a.number?.isSome = true
  | .any, _ => True

/-- The type of the attribute with a name. Defaults are of any type here, since their shape is
checked when a field is defined. -/
def ofName (name : String) : AttributeType :=
  if name ∈ ["id", "title", "capture_mode"] then .text
  else if name ∈ ["depends_on", "show_when", "placeholder"] then .optionalText
  else if name ∈ ["required", "read_only", "multiple"] then .flag
  else if name ∈ ["options", "accepted_file_types"] then .texts
  else if name = "max_file_size" then .optionalNumber
  else .any

end AttributeType

/-- Every attribute of a table has its type. -/
def Table.IsTyped (attrs : Table Value) : Prop :=
  ∀ entry ∈ attrs, (AttributeType.ofName entry.1).Admits entry.2

/-- A field that can be defined and whose attributes have their types. -/
structure Field.IsTyped (field : Field) : Prop where
  defined : field.IsDefined
  attributes : Table.IsTyped field.attributes

/-! ## Tables of attributes -/

namespace Table

variable {α : Type} {attrs changes : Table Value}

/-- An entry of a table that was written to is the one written or was there before. -/
theorem mem_put {key : String} {a : α} {table : Table α} {entry : String × α}
    (h : entry ∈ table.put key a) : entry = (key, a) ∨ entry ∈ table := by
  induction table with
  | nil => exact .inl (List.mem_singleton.1 h)
  | cons first rest ih =>
      obtain ⟨k, b⟩ := first
      rw [put] at h
      split at h
      · next hkey =>
          rcases List.mem_cons.1 h with rfl | hrest
          · exact .inl (by rw [hkey])
          · exact .inr (List.mem_cons_of_mem _ hrest)
      · rcases List.mem_cons.1 h with rfl | hrest
        · exact .inr List.mem_cons_self
        · exact (ih hrest).imp_right (List.mem_cons_of_mem _)

/-- Writing entries of their types over entries of theirs keeps the types. -/
theorem IsTyped.merge (hattrs : attrs.IsTyped) (hchanges : changes.IsTyped) :
    (attrs.merge changes).IsTyped := by
  induction changes generalizing attrs with
  | nil => exact hattrs
  | cons change rest ih =>
      obtain ⟨hchange, hrest⟩ := List.forall_mem_cons.1 hchanges
      refine ih ?_ hrest
      intro entry hentry
      rcases mem_put hentry with rfl | hold
      · exact hchange
      · exact hattrs entry hold

/-- Without some of its entries a table keeps its types. -/
theorem IsTyped.erase (hattrs : attrs.IsTyped) (key : String) : (attrs.erase key).IsTyped :=
  fun entry hentry => hattrs entry (List.mem_of_mem_filter hentry)

/-- An attribute, or its usual value of the same type, has its type. -/
theorem IsTyped.valueOf (hattrs : attrs.IsTyped) (name : String) {usual : Value}
    (husual : (AttributeType.ofName name).Admits usual) :
    (AttributeType.ofName name).Admits (Field.valueOf attrs name usual) := by
  unfold Field.valueOf
  cases hfind : attrs.find? name with
  | none => exact husual
  | some value => exact hattrs _ (mem_of_find? hfind)

/-- A list of texts is its own elements. -/
theorem IsTyped.elements (hattrs : attrs.IsTyped) (name : String)
    (hname : AttributeType.ofName name = .texts) {items : List Value}
    (hitems : (Field.valueOf attrs name (.list [])).elements = .ok items) :
    AttributeType.texts.Admits (.list items) := by
  have husual : (AttributeType.ofName name).Admits (.list []) := by
    rw [hname]
    exact ⟨[], rfl⟩
  have hvalue := hattrs.valueOf name husual
  rw [hname] at hvalue
  obtain ⟨texts, htexts⟩ := hvalue
  rw [htexts] at hitems
  cases hitems
  exact ⟨texts, rfl⟩

end Table

/-- The attributes that belong to an entry. -/
def Entry.attributes : Entry → Table Value
  | .text placeholder | .textarea placeholder => [("placeholder", placeholder)]
  | .select options | .radio options | .checkbox options => [("options", .list options)]
  | .file spec =>
      [("accepted_file_types", .list spec.acceptedTypes), ("max_file_size", spec.maxSize),
       ("multiple", spec.multiple), ("capture_mode", spec.captureMode)]

/-- What a file input accepts has its types. -/
structure UploadSpec.IsTyped (spec : UploadSpec) : Prop where
  acceptedTypes : AttributeType.texts.Admits (.list spec.acceptedTypes)
  maxSize : AttributeType.optionalNumber.Admits spec.maxSize
  multiple : AttributeType.flag.Admits spec.multiple
  captureMode : AttributeType.text.Admits spec.captureMode

/-- What a file input accepts has its types when the attributes of the entry have theirs. -/
theorem UploadSpec.isTyped_of_attributes {spec : UploadSpec}
    (h : Table.IsTyped (Entry.file spec).attributes) : spec.IsTyped where
  acceptedTypes := h ("accepted_file_types", _) (by simp [Entry.attributes])
  maxSize := h ("max_file_size", _) (by simp [Entry.attributes])
  multiple := h ("multiple", _) (by simp [Entry.attributes])
  captureMode := h ("capture_mode", _) (by simp [Entry.attributes])

/-! ## Fields -/

namespace Field

variable {kind : FieldKind} {attrs : Table Value} {field : Field}

/-- The attributes of an input are its flags, its default and those of its entry. -/
theorem ownAttributes_of_input {i : Input} (h : field.body = .input i) :
    field.ownAttributes =
      [("required", i.required), ("read_only", i.readOnly),
       ("default_value", i.initial.toValue)] ++ i.entry.attributes := by
  obtain ⟨required, readOnly, initial, entry⟩ := i
  unfold ownAttributes
  rw [h]
  cases entry <;> rfl

/-- A field is typed when it can be defined and the attributes it shares with all fields, its flags
and those of its entry have their types. -/
theorem isTyped_iff :
    field.IsTyped ↔
      field.IsDefined ∧ AttributeType.text.Admits field.title ∧
      AttributeType.optionalText.Admits field.dependsOn ∧
      AttributeType.optionalText.Admits field.showWhen ∧
      ∀ i, field.body = .input i →
        AttributeType.flag.Admits i.required ∧ AttributeType.flag.Admits i.readOnly ∧
        Table.IsTyped i.entry.attributes := by
  have hid : AttributeType.text.Admits (.text field.id) := ⟨field.id, rfl⟩
  have hinitial (initial : Default) : AttributeType.any.Admits initial.toValue := trivial
  constructor
  · rintro ⟨hdefined, hattrs⟩
    unfold attributes at hattrs
    refine ⟨hdefined, hattrs ("title", _) (by simp), hattrs ("depends_on", _) (by simp),
      hattrs ("show_when", _) (by simp), ?_⟩
    intro i hbody
    rw [ownAttributes_of_input hbody] at hattrs
    refine ⟨hattrs ("required", _) (by simp), hattrs ("read_only", _) (by simp), ?_⟩
    intro entry hentry
    exact hattrs entry (List.mem_append_right _ (List.mem_append_right _ hentry))
  · rintro ⟨hdefined, htitle, hdepends, hshow, hinput⟩
    refine ⟨hdefined, ?_⟩
    intro entry hentry
    rcases List.mem_append.1 hentry with hshared | hown
    · simp only [List.mem_cons, List.not_mem_nil, or_false] at hshared
      rcases hshared with rfl | rfl | rfl | rfl
      · exact hid
      · exact htitle
      · exact hdepends
      · exact hshow
    · cases hbody : field.body with
      | title =>
          simp [ownAttributes, hbody] at hown
      | readonly initial =>
          simp only [ownAttributes, hbody, List.mem_singleton] at hown
          subst hown
          exact hinitial initial
      | input i =>
          obtain ⟨hrequired, hreadOnly, htyped⟩ := hinput i hbody
          rw [ownAttributes_of_input hbody] at hown
          rcases List.mem_append.1 hown with hflags | hentry
          · simp only [List.mem_cons, List.not_mem_nil, or_false] at hflags
            rcases hflags with rfl | rfl | rfl
            · exact hrequired
            · exact hreadOnly
            · exact hinitial i.initial
          · exact htyped entry hentry

/-- The attributes of an entry that is read from attributes of their types have theirs. -/
theorem isTyped_of_entryOf (hattrs : attrs.IsTyped) {entry : Entry}
    (h : entryOf kind attrs = .ok (some entry)) : Table.IsTyped entry.attributes := by
  have hplaceholder : Table.IsTyped [("placeholder", valueOf attrs "placeholder" .null)] :=
    List.forall_mem_singleton.2 (hattrs.valueOf "placeholder" (.inl rfl))
  have hoptions {items : List Value}
      (hitems : (valueOf attrs "options" (.list [])).elements = .ok items) :
      Table.IsTyped [("options", .list items)] :=
    List.forall_mem_singleton.2 (hattrs.elements "options" rfl hitems)
  cases kind with
  | title | readonly => cases h
  | text | textarea =>
      cases h
      exact hplaceholder
  | select | radio | checkbox =>
      obtain ⟨items, hitems, heq⟩ := Result.map_eq_ok.1 h
      cases heq
      exact hoptions hitems
  | file =>
      obtain ⟨items, hitems, heq⟩ := Result.map_eq_ok.1 h
      cases heq
      intro own hown
      simp only [Entry.attributes, List.mem_cons, List.not_mem_nil, or_false] at hown
      rcases hown with rfl | rfl | rfl | rfl
      · exact hattrs.elements "accepted_file_types" rfl hitems
      · exact hattrs.valueOf "max_file_size" (.inl rfl)
      · exact hattrs.valueOf "multiple" ⟨false, rfl⟩
      · exact hattrs.valueOf "capture_mode" ⟨"none", rfl⟩

/-- Attributes of their types give a typed field. -/
theorem isTyped_of_build (hattrs : attrs.IsTyped) (h : build kind attrs = .ok field) :
    field.IsTyped := by
  obtain ⟨_, _, _, htitle, hdepends, hshow, entry, hentry, hbody⟩ := build_eq_ok.1 h
  refine isTyped_iff.2 ⟨isDefined_of_build h, ?_, ?_, ?_, ?_⟩
  · exact htitle ▸ hattrs.valueOf "title" ⟨"", rfl⟩
  · exact hdepends ▸ hattrs.valueOf "depends_on" (.inl rfl)
  · exact hshow ▸ hattrs.valueOf "show_when" (.inl rfl)
  · intro i hinput
    rw [hinput] at hbody
    rcases bodyOf_cases hbody with
      ⟨_, _, hother⟩ | ⟨_, _, hother, _⟩ | ⟨e, start, hsome, _, _, hinput⟩
    · cases hother
    · cases hother
    · cases hinput
      subst hsome
      exact ⟨hattrs.valueOf "required" ⟨false, rfl⟩,
        hattrs.valueOf "read_only" ⟨false, rfl⟩, isTyped_of_entryOf hattrs hentry⟩

/-- What a typed file field accepts has its types. -/
theorem IsTyped.upload (h : field.IsTyped) {spec : UploadSpec} (hspec : spec ∈ field.upload?) :
    spec.IsTyped := by
  obtain ⟨_, _, _, _, hinput⟩ := isTyped_iff.1 h
  obtain ⟨_, _, _, hbody⟩ := upload?_eq_some.1 hspec
  exact UploadSpec.isTyped_of_attributes (hinput _ hbody).2.2

/-- The options that a typed field brings to another kind are texts. -/
theorem IsTyped.carriedOptions (h : field.IsTyped) :
    AttributeType.texts.Admits (.list field.carriedOptions) := by
  have hown : ∀ options ∈ field.options?, AttributeType.texts.Admits (.list options) := by
    intro options hoptions
    obtain ⟨_, _, _, _, hinput⟩ := isTyped_iff.1 h
    have hentry {i : Input} (hbody : field.body = .input i)
        (hlisted : ("options", .list options) ∈ i.entry.attributes) :
        AttributeType.texts.Admits (.list options) :=
      (hinput i hbody).2.2 ("options", .list options) hlisted
    unfold options? at hoptions
    split at hoptions
    · next hbody =>
        cases hoptions
        exact hentry hbody (List.mem_singleton.2 rfl)
    · next hbody =>
        cases hoptions
        exact hentry hbody (List.mem_singleton.2 rfl)
    · next hbody =>
        cases hoptions
        exact hentry hbody (List.mem_singleton.2 rfl)
    · cases hoptions
  unfold Field.carriedOptions
  split
  · next hsome => exact hown _ hsome
  · exact ⟨["Option 1", "Option 2", "Option 3"], rfl⟩

/-- The placeholder that a typed field brings to another kind is a text if it is there. -/
theorem IsTyped.carriedPlaceholder (h : field.IsTyped) :
    AttributeType.optionalText.Admits (field.placeholder?.getD .null) := by
  obtain ⟨_, _, _, _, hinput⟩ := isTyped_iff.1 h
  unfold placeholder?
  split
  · next hbody => exact (hinput _ hbody).2.2 ("placeholder", _) (List.mem_singleton.2 rfl)
  · next hbody => exact (hinput _ hbody).2.2 ("placeholder", _) (List.mem_singleton.2 rfl)
  · exact .inl rfl

/-- The flags that a typed field brings to another kind are truth values. -/
theorem IsTyped.carriedFlags (h : field.IsTyped) :
    AttributeType.flag.Admits field.carriedFlags.1 ∧
      AttributeType.flag.Admits field.carriedFlags.2 := by
  obtain ⟨_, _, _, _, hinput⟩ := isTyped_iff.1 h
  unfold Field.carriedFlags
  split
  · next hbody => exact ⟨(hinput _ hbody).1, (hinput _ hbody).2.1⟩
  · exact ⟨⟨false, rfl⟩, ⟨false, rfl⟩⟩

/-- The attributes of a new entry have their types when what is brought to it does. -/
theorem isTyped_newEntry {placeholder : Value} {options : List Value}
    (hplaceholder : AttributeType.optionalText.Admits placeholder)
    (hoptions : AttributeType.texts.Admits (.list options)) (kind : FieldKind) :
    Table.IsTyped (newEntry placeholder options kind).attributes := by
  cases kind with
  | title | text | textarea | readonly => exact List.forall_mem_singleton.2 hplaceholder
  | select | radio | checkbox => exact List.forall_mem_singleton.2 hoptions
  | file =>
      intro own hown
      simp only [newEntry, Entry.attributes, List.mem_cons, List.not_mem_nil, or_false] at hown
      rcases hown with rfl | rfl | rfl | rfl
      · exact ⟨["image/*"], rfl⟩
      · exact .inr ⟨.int 10, rfl, rfl⟩
      · exact ⟨false, rfl⟩
      · exact ⟨"none", rfl⟩

/-- A typed field is converted into a typed field. -/
theorem IsTyped.convert (h : field.IsTyped) (kind : FieldKind) : (field.convert kind).IsTyped := by
  obtain ⟨hdefined, htitle, hdepends, hshow, _⟩ := isTyped_iff.1 h
  have hconverted := hdefined.convert kind
  unfold Field.convert at hconverted ⊢
  split
  · exact h
  · next hother =>
      rw [if_neg hother] at hconverted
      obtain ⟨hrequired, hreadOnly⟩ := h.carriedFlags
      have hentry := isTyped_newEntry h.carriedPlaceholder h.carriedOptions kind
      refine isTyped_iff.2 ⟨hconverted, htitle, hdepends, hshow, fun i hi => ?_⟩
      cases kind with
      | title | readonly => cases hi
      | text | textarea | select | radio | checkbox | file =>
          cases hi
          exact ⟨hrequired, hreadOnly, hentry⟩

end Field

end PagedForm
