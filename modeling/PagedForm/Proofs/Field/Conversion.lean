import PagedForm.Proofs.Field.Shape

/-!
# Conversions in a row

A field becomes one of another kind by being defined anew from the attributes that it brings along.
These are always legal for the new kind, so a conversion of a field with an id cannot fail. What a
row of conversions keeps of a field depends on all the kinds on the way: each lemma here says what
one conversion does to an attribute, and what a row of them does follows by induction.
-/

namespace PagedForm

namespace Field

/-! ## A conversion defines a field -/

/-- What an input brings to another kind of input. -/
def carriedInput (field : Field) : Table Value :=
  match field.input? with
  | some i => [("required", i.required), ("read_only", i.readOnly)]
  | none => []

/-- The attributes that a field brings to another kind. -/
def carriedAttributes (field : Field) (kind : FieldKind) : Table Value :=
  [("id", .text field.id), ("title", field.title), ("depends_on", field.dependsOn),
   ("show_when", field.showWhen)] ++
    match kind with
    | .title | .readonly => []
    | .text | .textarea =>
        field.carriedInput ++ (field.placeholder?.map fun value => ("placeholder", value)).toList
    | .select | .radio | .checkbox =>
        field.carriedInput ++ [("options", .list field.carriedOptions)]
    | .file =>
        field.carriedInput ++
          [("accepted_file_types", .list imageTypes), ("max_file_size", .int 10)]

/-- The field as one of a named kind: itself when it is of this kind, and otherwise the field that
the attributes define which it brings along. -/
def changeKind (field : Field) (kind : Value) : Result Field := do
  let kind ← FieldKind.ofValue kind
  if kind = field.kind then pure field else define kind (field.carriedAttributes kind)

variable {field : Field} {kind : FieldKind} {kinds : List FieldKind}

/-- A field brings to a kind only attributes that the kind has. -/
theorem mem_attributes_of_carried (field : Field) (kind : FieldKind) :
    ∀ name ∈ (field.carriedAttributes kind).keys, name ∈ kind.attributes := by
  unfold carriedAttributes carriedInput
  cases field using Field.bodyCases with
  | title | readonly | input =>
      cases kind <;> simp [Table.keys, FieldKind.attributes, FieldKind.sharedAttributes,
        FieldKind.ownAttributes, input?, placeholder?]

/-- What a field brings to another kind defines the converted field. -/
theorem define_carriedAttributes (hid : field.id ≠ "") (hkind : kind ≠ field.kind) :
    define kind (field.carriedAttributes kind) = .ok (field.convert kind) := by
  unfold convert
  rw [if_neg hkind]
  refine define_eq_ok.2 (build_eq_ok.2
    ⟨mem_attributes_of_carried field kind, rfl, hid, rfl, rfl, rfl, ?_⟩)
  cases field using Field.bodyCases with
  | title | readonly => cases kind <;> exact ⟨_, rfl, rfl⟩
  | input _ _ _ _ _ _ _ entry => cases entry <;> cases kind <;> exact ⟨_, rfl, rfl⟩

/-- A change of kind fails only at a kind that there is not. -/
theorem changeKind_eq (hid : field.id ≠ "") (kind : Value) :
    field.changeKind kind = (FieldKind.ofValue kind).map field.convert := by
  unfold changeKind
  cases FieldKind.ofValue kind with
  | error => rfl
  | ok kind =>
      rw [Result.ok_bind]
      split
      · next hsame => exact congrArg Except.ok (if_pos hsame).symm
      · next hother => exact define_carriedAttributes hid hother

/-- The name of a kind names the kind. -/
theorem ofValue_name (kind : FieldKind) : FieldKind.ofValue (.text kind.name) = .ok kind := by
  simp [FieldKind.ofValue, FieldKind.ofValue?]

/-! ## One conversion -/

/-- A converted field has the id of the field. -/
@[simp] theorem id_convert (field : Field) (kind : FieldKind) :
    (field.convert kind).id = field.id := by
  obtain ⟨_, hconvert⟩ := field.exists_convert_eq kind
  rw [hconvert]

/-- An input keeps whether it is required and can be changed, and no other kind has these. -/
theorem carriedFlags_convert (field : Field) (kind : FieldKind) :
    (field.convert kind).carriedFlags =
      if kind.isInput then field.carriedFlags else (.bool false, .bool false) := by
  unfold convert
  split
  · next hsame =>
      subst hsame
      cases field using Field.bodyCases with
      | title | readonly => rfl
      | input _ _ _ _ _ _ _ entry => cases entry <;> rfl
  · cases kind <;> rfl

/-- A choice keeps the options that it brings along if there are any. -/
theorem options?_convert (hkind : kind.isChoice = true) {first : Value} {rest : List Value}
    (h : field.options? = some (first :: rest)) :
    (field.convert kind).options? = some (first :: rest) := by
  unfold convert
  split
  · exact h
  · have hcarried : field.carriedOptions = first :: rest := by rw [carriedOptions, h]
    rw [hcarried]
    cases kind with
    | select | radio | checkbox => rfl
    | title | text | textarea | file | readonly => cases hkind

/-- A field without a default, whose answers are of the shape that its kind has at first. -/
structure IsReset (field : Field) : Prop where
  initial : field.initial = .absent
  shape : field.shape = field.kind.shape false

/-- A conversion to another kind resets the field. -/
theorem isReset_convert (hkind : kind ≠ field.kind) : (field.convert kind).IsReset := by
  unfold convert
  rw [if_neg hkind]
  cases kind <;> exact ⟨rfl, rfl⟩

/-- A reset field stays reset when it is converted. -/
theorem IsReset.convert (h : field.IsReset) (kind : FieldKind) : (field.convert kind).IsReset := by
  by_cases hkind : kind = field.kind
  · unfold Field.convert
    rw [if_pos hkind]
    exact h
  · exact isReset_convert hkind

/-! ## Conversions in a row -/

/-- Conversions of a field with an id to kinds that there are do not fail. -/
theorem foldlM_changeKind (hid : field.id ≠ "") :
    kinds.foldlM (fun field kind => field.changeKind (.text kind.name)) field =
      .ok (kinds.foldl convert field) := by
  induction kinds generalizing field with
  | nil => rfl
  | cons kind rest ih =>
      rw [List.foldlM_cons, changeKind_eq hid, ofValue_name]
      exact ih (field.id_convert kind ▸ hid)

/-- Conversions change nothing but the body of a field. -/
theorem exists_foldl_convert_eq (field : Field) (kinds : List FieldKind) :
    ∃ body, kinds.foldl convert field = { field with body := body } := by
  induction kinds generalizing field with
  | nil => exact ⟨field.body, rfl⟩
  | cons kind rest ih =>
      obtain ⟨_, hconvert⟩ := field.exists_convert_eq kind
      obtain ⟨body, hrest⟩ := ih (field.convert kind)
      exact ⟨body, by rw [List.foldl_cons, hrest, hconvert]⟩

/-- The field ends as one of the last kind. -/
theorem kind_foldl_convert (field : Field) (kinds : List FieldKind) :
    (kinds.foldl convert field).kind = kinds.getLastD field.kind := by
  induction kinds generalizing field with
  | nil => rfl
  | cons kind rest ih => rw [List.foldl_cons, ih, kind_convert, List.getLastD_cons]

/-- Whether it is required and can be changed is kept along inputs only. -/
theorem carriedFlags_foldl_convert (field : Field) (kinds : List FieldKind) :
    (kinds.foldl convert field).carriedFlags =
      if kinds.all FieldKind.isInput then field.carriedFlags else (.bool false, .bool false) := by
  induction kinds generalizing field with
  | nil => rfl
  | cons kind rest ih =>
      rw [List.foldl_cons, ih, carriedFlags_convert, List.all_cons]
      cases kind.isInput <;> cases rest.all FieldKind.isInput <;> rfl

/-- Options are kept along choices. -/
theorem options?_foldl_convert (hkinds : ∀ kind ∈ kinds, kind.isChoice = true) {first : Value}
    {rest : List Value} (h : field.options? = some (first :: rest)) :
    (kinds.foldl convert field).options? = some (first :: rest) := by
  induction kinds generalizing field with
  | nil => exact h
  | cons kind others ih =>
      obtain ⟨hkind, hothers⟩ := List.forall_mem_cons.1 hkinds
      exact ih hothers (options?_convert hkind h)

/-- A reset field stays reset in all conversions. -/
theorem IsReset.foldl_convert (h : field.IsReset) (kinds : List FieldKind) :
    (kinds.foldl Field.convert field).IsReset := by
  induction kinds generalizing field with
  | nil => exact h
  | cons kind rest ih => exact ih (h.convert kind)

/-- A field is reset when some kind on the way is not its own. -/
theorem isReset_foldl_convert (h : ∃ kind ∈ kinds, kind ≠ field.kind) :
    (kinds.foldl convert field).IsReset := by
  induction kinds with
  | nil =>
      obtain ⟨_, hmem, _⟩ := h
      cases hmem
  | cons kind rest ih =>
      by_cases hkind : kind = field.kind
      · -- The first conversion changes nothing, so the other kind is further on.
        have hrest : ∃ kind ∈ rest, kind ≠ field.kind := by
          obtain ⟨other, hmem, hother⟩ := h
          rcases List.mem_cons.1 hmem with rfl | hmem
          · exact absurd hkind hother
          · exact ⟨other, hmem, hother⟩
        have hsame : field.convert kind = field := if_pos hkind
        rw [List.foldl_cons, hsame]
        exact ih hrest
      · exact (isReset_convert hkind).foldl_convert rest

/-! ## What is kept -/

/-- What an input is required and able to be. -/
theorem carriedFlags_of_isInput (h : field.kind.isInput = true) :
    field.carriedFlags = (field.required, field.readOnly) := by
  cases field using Field.bodyCases with
  | title | readonly => cases h
  | input => rfl

/-- A field that is no input brings no flags. -/
theorem carriedFlags_of_not_isInput (h : field.kind.isInput = false) :
    field.carriedFlags = (.bool false, .bool false) := by
  cases field using Field.bodyCases with
  | title | readonly => rfl
  | input _ _ _ _ _ _ _ entry => cases entry <;> cases h

/-- What is kept of a field that is converted to these kinds in a row. -/
structure IsConversion (field : Field) (kinds : List FieldKind) (result : Field) : Prop where
  kind : result.kind = kinds.getLastD field.kind
  id : result.id = field.id
  title : result.title = field.title
  dependsOn : result.dependsOn = field.dependsOn
  showWhen : result.showWhen = field.showWhen
  flags_kept : (∀ kind ∈ field.kind :: kinds, kind.isInput = true) →
    result.required = field.required ∧ result.readOnly = field.readOnly
  flags_lost : result.kind.isInput = true →
    (∃ kind ∈ field.kind :: kinds, kind = .title ∨ kind = .readonly) →
    result.required = .bool false ∧ result.readOnly = .bool false
  options_kept : (∀ kind ∈ field.kind :: kinds, kind.isChoice = true) →
    field.options? ≠ some [] → result.options? = field.options?
  default_lost : (∃ kind ∈ kinds, kind ≠ field.kind) →
    result.initial = .absent ∧ result.initialAnswer = result.emptyAnswer ∧
      result.emptyAnswer = (result.kind.shape false).empty

/-- The flags are kept when all kinds are inputs. -/
theorem flags_foldl_convert (h : ∀ kind ∈ field.kind :: kinds, kind.isInput = true) :
    (kinds.foldl convert field).required = field.required ∧
      (kinds.foldl convert field).readOnly = field.readOnly := by
  have hlast : (kinds.foldl convert field).kind.isInput = true :=
    kind_foldl_convert field kinds ▸ h _ List.getLastD_mem_cons
  obtain ⟨hfield, hkinds⟩ := List.forall_mem_cons.1 h
  have hflags := carriedFlags_foldl_convert field kinds
  rw [if_pos (List.all_eq_true.2 hkinds), carriedFlags_of_isInput hlast,
    carriedFlags_of_isInput hfield] at hflags
  exact Prod.mk.inj hflags

/-- The flags of an input are lost when some kind on the way is none. -/
theorem noFlags_foldl_convert (hlast : (kinds.foldl convert field).kind.isInput = true)
    (h : ∃ kind ∈ field.kind :: kinds, kind.isInput = false) :
    (kinds.foldl convert field).required = .bool false ∧
      (kinds.foldl convert field).readOnly = .bool false := by
  have hflags := carriedFlags_foldl_convert field kinds
  rw [carriedFlags_of_isInput hlast] at hflags
  split at hflags
  · next hall =>
      -- All kinds after the first are inputs, so the field was none.
      obtain ⟨kind, hmem, hkind⟩ := h
      rcases List.mem_cons.1 hmem with rfl | hmem
      · rw [carriedFlags_of_not_isInput hkind] at hflags
        exact Prod.mk.inj hflags
      · exact Bool.noConfusion (hkind.symm.trans (List.all_eq_true.1 hall kind hmem))
  · exact Prod.mk.inj hflags

/-- Options that there are some of are kept when all kinds are choices. -/
theorem options?_of_choices (h : ∀ kind ∈ field.kind :: kinds, kind.isChoice = true)
    (hsome : field.options? ≠ some []) :
    (kinds.foldl convert field).options? = field.options? := by
  obtain ⟨hfield, hkinds⟩ := List.forall_mem_cons.1 h
  obtain ⟨options, hoptions⟩ := Option.isSome_iff_exists.1 (field.options?_isSome.trans hfield)
  cases options with
  | nil => exact absurd hoptions hsome
  | cons first rest => rw [hoptions, options?_foldl_convert hkinds hoptions]

/-- A reset field starts with the empty answer of its kind. -/
theorem IsReset.emptyAnswer_eq (h : field.IsReset) :
    field.initialAnswer = field.emptyAnswer ∧
      field.emptyAnswer = (field.kind.shape false).empty := by
  rw [initialAnswer_of_absent h.initial, field.emptyAnswer_eq, h.shape]
  exact ⟨rfl, rfl⟩

/-- A field with an id can be converted to any kinds in a row. It ends as one of the last kind with
the same id, title and dependency. It keeps whether it is required and can be changed if all kinds,
its own included, are inputs, and an input that was a heading or a read-only text on the way is
neither required nor locked. Options are kept if all kinds are choices. After a kind that is not its
own there is no default, and the field starts with the empty answer of the last kind. -/
theorem conversions_compose (hid : field.id ≠ "") (kinds : List FieldKind) :
    kinds.foldlM (fun field kind => field.changeKind (.text kind.name)) field =
        .ok (kinds.foldl convert field) ∧
      field.IsConversion kinds (kinds.foldl convert field) := by
  have hreset (h : ∃ kind ∈ kinds, kind ≠ field.kind) := isReset_foldl_convert h
  obtain ⟨body, heq⟩ := field.exists_foldl_convert_eq kinds
  refine ⟨foldlM_changeKind hid, ?_⟩
  exact
    { kind := kind_foldl_convert field kinds
      id := by rw [heq]
      title := by rw [heq]
      dependsOn := by rw [heq]
      showWhen := by rw [heq]
      flags_kept := flags_foldl_convert
      flags_lost := fun hlast ⟨kind, hmem, hkind⟩ =>
        noFlags_foldl_convert hlast ⟨kind, hmem, by rcases hkind with rfl | rfl <;> rfl⟩
      options_kept := options?_of_choices
      default_lost := fun h => ⟨(hreset h).initial, (hreset h).emptyAnswer_eq⟩ }

/-- A choice of several tags that must be made, with a default. -/
def tagsField : Field where
  id := "tags"
  title := .text "Tags"
  dependsOn := .text "known"
  showWhen := .text "Yes"
  body := .input ⟨.bool true, .bool false, .choices ["a"], .checkbox [.text "a", .text "b"]⟩

/-- As a choice of one tag, and then of one from a list, it keeps its options and must still be
made, but it has no default. -/
theorem conversions_compose_tags :
    tagsField.id ≠ "" ∧
      ∃ result : Field,
        [FieldKind.radio, .select].foldlM (fun field kind => field.changeKind (.text kind.name))
          tagsField = .ok result ∧
        result.kind = .select ∧ result.id = "tags" ∧ result.dependsOn = .text "known" ∧
        result.required = .bool true ∧ result.options? = some [.text "a", .text "b"] ∧
        result.initial = .absent ∧ result.initialAnswer = .text "" := by
  have hid : tagsField.id ≠ "" := by decide
  obtain ⟨hresult, h⟩ := conversions_compose hid [.radio, .select]
  have hinputs : ∀ kind ∈ tagsField.kind :: [.radio, .select], kind.isInput = true := by decide
  have hchoices : ∀ kind ∈ tagsField.kind :: [.radio, .select], kind.isChoice = true := by decide
  have hother : ∃ kind ∈ [FieldKind.radio, .select], kind ≠ tagsField.kind :=
    ⟨.radio, List.mem_cons_self, by decide⟩
  obtain ⟨habsent, hstart, hempty⟩ := h.default_lost hother
  refine ⟨hid, _, hresult, h.kind, h.id, h.dependsOn, (h.flags_kept hinputs).1, ?_, habsent, ?_⟩
  · exact h.options_kept hchoices (by simp [tagsField, options?])
  · rw [hstart, hempty]
    rfl

end Field

end PagedForm
