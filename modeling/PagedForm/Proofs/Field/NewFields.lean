import PagedForm.Proofs.Field.Defined
import PagedForm.Proofs.Numbering
import Std.Data.String.ToNat

/-!
# New fields

The id of a new field has letters and digits of ASCII only, whatever characters its title has, and
is not among the ids that are taken. `FieldId.free_cases` says which id is chosen: the one that the
title suggests, or the first of its numbered forms, counted up from two, that is not taken. With it,
the attributes that a new field of a kind starts with define the field.
-/

namespace PagedForm

namespace FieldId

/-- An id that is not empty and has letters and digits of ASCII only. -/
structure IsAlphanumeric (id : String) : Prop where
  ne_empty : id ≠ ""
  chars : ∀ c ∈ id.toList, c.isAlphanum = true

/-! ## Letters and digits -/

/-- A letter or digit stays one in lower case. -/
theorem isAlphanum_toLower {c : Char} (h : c.isAlphanum = true) : c.toLower.isAlphanum = true := by
  unfold Char.toLower
  split
  · delta Char.isAlphanum Char.isAlpha Char.isLower
    simp only [Bool.or_eq_true, Bool.and_eq_true, decide_eq_true_eq]
    refine .inl (.inr ?_)
    grind
  · exact h

/-- A letter or digit stays one in upper case. -/
theorem isAlphanum_toUpper {c : Char} (h : c.isAlphanum = true) : c.toUpper.isAlphanum = true := by
  unfold Char.toUpper
  split
  · delta Char.isAlphanum Char.isAlpha Char.isUpper
    simp only [Bool.or_eq_true, decide_eq_true_eq]
    refine .inl (.inl ?_)
    grind
  · exact h

/-- The words of a title keep its letters and digits only. -/
theorem isAlphanum_of_mem_words {title : String} {word : List Char}
    (hword : word ∈ Text.words (keptChars title)) : ∀ c ∈ word, c.isAlphanum = true := by
  intro c hc
  have hkept : c ∈ (keptChars title).filter fun c => !Text.isBlank c :=
    Text.flatten_words _ ▸ List.mem_flatten_of_mem hword hc
  obtain ⟨hkept, hblank⟩ := List.mem_filter.1 hkept
  have hclass : (c.isAlphanum || Text.isBlank c) = true := (List.mem_filter.1 hkept).2
  cases hc : Text.isBlank c with
  | true => simp [hc] at hblank
  | false => simpa [hc] using hclass

/-- A capitalised word keeps its letters and digits. -/
theorem isAlphanum_of_mem_capitalise {word : List Char} (h : ∀ c ∈ word, c.isAlphanum = true) :
    ∀ c ∈ capitalise word, c.isAlphanum = true := by
  cases word with
  | nil => exact h
  | cons first rest =>
      obtain ⟨hfirst, hrest⟩ := List.forall_mem_cons.1 h
      refine List.forall_mem_cons.2 ⟨isAlphanum_toUpper hfirst, List.forall_mem_map.2 ?_⟩
      exact fun c hc => isAlphanum_toLower (hrest c hc)

/-- The id that a title suggests has letters and digits only. -/
theorem isAlphanum_of_mem_camelCase {title : String} :
    ∀ c ∈ (camelCase title).toList, c.isAlphanum = true := by
  unfold camelCase
  split
  · simp
  · next first rest hwords =>
      have hword (word : List Char) (h : word ∈ first :: rest) : ∀ c ∈ word, c.isAlphanum = true :=
        isAlphanum_of_mem_words (hwords ▸ h)
      rw [String.toList_ofList]
      intro c hc
      rcases List.mem_append.1 hc with hc | hc
      · obtain ⟨d, hd, rfl⟩ := List.mem_map.1 hc
        exact isAlphanum_toLower (hword first List.mem_cons_self d hd)
      · obtain ⟨word, hmem, hc⟩ := List.mem_flatMap.1 hc
        exact isAlphanum_of_mem_capitalise (hword word (List.mem_cons_of_mem _ hmem)) c hc

/-- What the id of a field is made of is never empty. -/
theorem isAlphanumeric_base (title : String) (kind : FieldKind) :
    IsAlphanumeric (base title kind) := by
  unfold base
  dsimp only
  split
  · -- Without letters and digits in the title the kind gives the id.
    cases kind <;> exact ⟨by decide, List.all_eq_true.1 rfl⟩
  · next hgiven => exact ⟨fun hempty => hgiven (by simp [hempty]), isAlphanum_of_mem_camelCase⟩

/-- A number adds digits to an id. -/
theorem IsAlphanumeric.numbered {start : String} (h : IsAlphanumeric start) (n : Nat) :
    IsAlphanumeric (numbered start n) := by
  have hdigits : (toString n).toList = Nat.toDigits 10 n := Nat.toList_repr
  unfold FieldId.numbered
  refine ⟨by simp [h.ne_empty], fun c hc => ?_⟩
  rw [String.toList_append, List.mem_append, hdigits] at hc
  rcases hc with hc | hc
  · exact h.chars c hc
  · have hdigit : c.isDigit = true := Nat.isDigit_of_mem_toDigits (by decide) (by decide) hc
    simp [Char.isAlphanum, hdigit]

/-! ## The first free id -/

/-- Different numbers give different ids. -/
theorem numbered_injective (start : String) : Function.Injective (numbered start) :=
  fun _ _ h => Nat.repr_injective ((String.append_right_inj _).1 h)

/-- An id that is not taken is free as it is. When it is taken, counting up from two ends, and the
id is free with the number where it ends. -/
theorem free_cases (start : String) (taken : List String) :
    (start ∉ taken ∧ free start taken = start) ∨
      (start ∈ taken ∧ ∃ n, CountsTo (fun n => taken.contains (numbered start n)) 2 n ∧
        free start taken = numbered start n) := by
  unfold free
  split
  · next htaken =>
      refine .inr ⟨List.contains_iff_mem.1 htaken, ?_⟩
      obtain ⟨marks, hlength, hmarks⟩ := exists_marks (numbered_injective start) taken
      obtain ⟨n, hn, hle⟩ :=
        exists_countsTo (fun n hused => hmarks n (List.contains_iff_mem.1 hused)) 2
      refine ⟨n, hn, ?_⟩
      dsimp only
      rw [hn.find?_range (by omega)]
  · next hfree => exact .inl ⟨fun h => hfree (List.contains_iff_mem.2 h), rfl⟩

/-- The free id is not taken. -/
theorem free_not_mem (start : String) (taken : List String) : free start taken ∉ taken := by
  rcases free_cases start taken with ⟨hfree, heq⟩ | ⟨_, n, hn, heq⟩
  · rw [heq]
    exact hfree
  · rw [heq]
    exact fun hmem => Bool.noConfusion (hn.isLeast.1.2.symm.trans (List.contains_iff_mem.2 hmem))

/-- The id of a new field has letters and digits only. -/
theorem isAlphanumeric_fresh (title : String) (kind : FieldKind) (taken : List String) :
    IsAlphanumeric (fresh title kind taken) := by
  have hbase := isAlphanumeric_base title kind
  unfold fresh
  rcases free_cases (base title kind) taken with ⟨_, heq⟩ | ⟨_, n, _, heq⟩
  · rw [heq]
    exact hbase
  · rw [heq]
    exact hbase.numbered n

end FieldId

/-! ## New fields are defined -/

namespace Field

/-- The attributes that a new field of a kind starts with. -/
def newAttributes (kind : FieldKind) (taken : List String) : Table Value :=
  [("id", .text (FieldId.fresh kind.newTitle kind taken)), ("title", .text kind.newTitle)] ++
    match kind with
    | .title | .readonly => []
    | .text | .textarea => [("placeholder", .text "Enter value")]
    | .select | .radio | .checkbox => [("options", .list placeholderOptions)]
    | .file =>
        [("accepted_file_types", .list imageTypes), ("max_file_size", .int 10),
         ("multiple", .bool false), ("capture_mode", .text "none")]

/-- A new field starts with attributes that its kind has. -/
theorem mem_attributes_of_new (kind : FieldKind) (taken : List String) :
    ∀ name ∈ (newAttributes kind taken).keys, name ∈ kind.attributes := by
  cases kind <;> simp [newAttributes, Table.keys, FieldKind.attributes,
    FieldKind.sharedAttributes, FieldKind.ownAttributes]

/-- The attributes that a new field starts with define it. -/
theorem define_newAttributes (kind : FieldKind) (taken : List String) :
    define kind (newAttributes kind taken) = .ok (new kind taken) := by
  have hid := (FieldId.isAlphanumeric_fresh kind.newTitle kind taken).ne_empty
  refine define_eq_ok.2 (build_eq_ok.2 ⟨mem_attributes_of_new kind taken, rfl, hid, rfl, ?_⟩)
  cases kind <;> exact ⟨rfl, rfl, _, rfl, rfl⟩

end Field

end PagedForm
