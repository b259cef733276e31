import PagedForm.Proofs.Json.Float
import PagedForm.Proofs.Json.Text
import PagedForm.Proofs.Records

/-!
# Values in JSON

A value is read again from its text, in every layout: `Value.IsJson` describes the values that JSON
holds, and `read_write` says that such a value is read as it was. A value is read with as much fuel
as its text is long, since every item and every entry takes at least one character besides its
value.
-/

namespace PagedForm

/-- An atom that JSON holds: an integer is not too long to be read, and a number is one that
rounding gives. -/
def Atom.IsJson : Atom → Prop
  | .int n => (Nat.toDigits 10 n.natAbs).length ≤ Text.maxDigits
  | .float x => x.IsRounded
  | .null | .bool _ | .text _ => True

/-- A value that JSON holds: it describes no file, and the keys of its records are texts, each used
once. -/
inductive Value.IsJson : Value → Prop where
  | atom {a : Atom} : a.IsJson → IsJson (.atom a)
  | list {items : List Value} : (∀ v ∈ items, IsJson v) → IsJson (.list items)
  | record {entries : List (Atom × Value)} :
      (∀ entry ∈ entries, ∃ key, entry.1 = .text key) → (entries.map Prod.fst).Nodup →
      (∀ entry ∈ entries, IsJson entry.2) → IsJson (.record entries)

namespace Json

/-! ## Blanks -/

/-- Leading blanks are skipped. -/
theorem skipBlanks_append {blanks : List Char} (h : ∀ c ∈ blanks, c = ' ' ∨ c = '\n')
    (rest : List Char) : skipBlanks (blanks ++ rest) = skipBlanks rest := by
  refine List.dropWhile_append_of_pos fun c hc => ?_
  rcases h c hc with rfl | rfl <;> rfl

/-- The break before an entry is skipped. -/
theorem skipBlanks_lineBreak (style : Style) (depth : Nat) (rest : List Char) :
    skipBlanks (lineBreak style depth ++ rest) = skipBlanks rest := by
  cases style with
  | oneLine => rfl
  | indented blanks =>
      refine skipBlanks_append (List.forall_mem_cons.2 ⟨.inr rfl, fun c hc => ?_⟩) rest
      exact .inl (List.eq_of_mem_replicate hc)

/-- A value that is read begins neither with a blank nor with a closing bracket. -/
theorem begins_of_readValue {fuel : Nat} {chars rest : List Char} {v : Value}
    (h : readValue fuel chars = .ok (v, rest)) :
    skipBlanks chars = chars ∧ chars ≠ [] ∧ ∀ after, chars ≠ ']' :: after := by
  cases fuel with
  | zero => cases h
  | succ fuel =>
      cases chars with
      | nil => cases h
      | cons c more =>
          refine ⟨List.dropWhile_cons_of_neg ?_, List.cons_ne_nil _ _, ?_⟩
          · intro hblank
            simp only [Bool.or_eq_true, decide_eq_true_eq] at hblank
            rcases hblank with ((rfl | rfl) | rfl) | rfl <;> cases h
          · rintro _ ⟨⟩
            cases h

/-! ## Atoms -/

/-- A bare word or a number is a value. -/
theorem readValue_of_readScalar {chars : List Char} {found : Value × List Char}
    (h : readScalar chars = .ok found) (fuel : Nat) : readValue (fuel + 1) chars = .ok found := by
  unfold readValue
  split
  · cases h
  · cases h
  · cases h
  · cases h
  · exact h

/-- A value is read from its text with fuel for each of its characters, in every layout and before
everything that does not go on with a number. -/
def IsReadAgain (v : Value) : Prop :=
  ∀ (style : Style) (depth fuel : Nat) (rest : List Char), EndsNumber rest →
    (writeAt style depth v).length ≤ fuel →
    readValue fuel (writeAt style depth v ++ rest) = .ok (v, rest)

/-- Nothing goes on with a number. -/
theorem endsNumber_nil : EndsNumber [] :=
  ⟨by rintro _ ⟨⟩, by rintro _ ⟨⟩⟩

/-- An atom that is read from its text as a bare word or a number is read again. -/
theorem isReadAgain_of_readScalar {a : Atom}
    (h : ∀ rest, EndsNumber rest → readScalar (writeAtom a ++ rest) = .ok (.atom a, rest)) :
    IsReadAgain (.atom a) := by
  intro style depth fuel rest hrest hfuel
  have hlength : 0 < (writeAtom a).length := by
    refine List.length_pos_iff.2 fun hempty => ?_
    have hnothing := h [] endsNumber_nil
    rw [hempty] at hnothing
    cases hnothing
  rw [writeAt] at hfuel
  obtain ⟨fuel, rfl⟩ := Nat.exists_eq_add_one.2 (show 0 < fuel by omega)
  rw [writeAt]
  exact readValue_of_readScalar (h rest hrest) fuel

/-- An atom is read again. -/
theorem isReadAgain_atom {a : Atom} (h : a.IsJson) : IsReadAgain (.atom a) := by
  cases a with
  | null => exact isReadAgain_of_readScalar fun rest _ => rfl
  | bool b => cases b <;> exact isReadAgain_of_readScalar fun rest _ => rfl
  | int n => exact isReadAgain_of_readScalar fun rest hrest => readScalar_int h hrest
  | float x => exact isReadAgain_of_readScalar fun rest hrest => readScalar_floatText h hrest
  | text s =>
      intro style depth fuel rest _ hfuel
      have hlength : 0 < (writeAt style depth (.atom (.text s))).length := Nat.succ_pos _
      obtain ⟨fuel, rfl⟩ := Nat.exists_eq_add_one.2 (show 0 < fuel by omega)
      obtain ⟨body, hbody, hread⟩ := readString_quote s rest
      show readValue (fuel + 1) (quote s ++ rest) = _
      rw [hbody, readValue, hread]
      rfl

/-! ## Between brackets -/

/-- The break behind a comma. -/
def gap (style : Style) (depth : Nat) : List Char :=
  match style with
  | .oneLine => [' ']
  | .indented _ => lineBreak style (depth + 1)

/-- What follows an entry: the other entries, each behind a comma, and the closing bracket. -/
def remaining (style : Style) (depth : Nat) (closing : Char) : List (List Char) → List Char
  | [] => lineBreak style depth ++ [closing]
  | part :: parts => ',' :: (gap style depth ++ (part ++ remaining style depth closing parts))

variable {style : Style} {depth : Nat}

/-- Entries between their brackets are the first of them and what follows it. -/
theorem enclose_cons (opening closing : Char) (first : List Char) (parts : List (List Char)) :
    enclose style depth opening closing (first :: parts) =
      opening :: (lineBreak style (depth + 1) ++
        (first ++ remaining style depth closing parts)) := by
  have hparts : ∀ comma : List Char, comma ++ lineBreak style (depth + 1) = ',' :: gap style depth →
      parts.flatMap (fun part => comma ++ lineBreak style (depth + 1) ++ part) ++
        (lineBreak style depth ++ [closing]) = remaining style depth closing parts := by
    intro comma hcomma
    induction parts with
    | nil => rfl
    | cons part parts ih =>
        rw [List.flatMap_cons, List.append_assoc, ih, hcomma, remaining]
        simp
  unfold enclose
  cases style with
  | oneLine => simp [← hparts [',', ' '] rfl]
  | indented blanks => simp [← hparts [','] rfl]

/-- The break behind a comma is skipped. -/
theorem skipBlanks_gap (rest : List Char) :
    skipBlanks (gap style depth ++ rest) = skipBlanks rest := by
  cases style with
  | oneLine => rfl
  | indented blanks => exact skipBlanks_lineBreak (.indented blanks) (depth + 1) rest

/-- What follows an entry does not go on with a number. -/
theorem endsNumber_remaining {closing : Char} (h : closing = ']' ∨ closing = '\x7d')
    (parts : List (List Char)) (rest : List Char) :
    EndsNumber (remaining style depth closing parts ++ rest) := by
  have hhead : ∀ c ∈ (remaining style depth closing parts ++ rest).head?,
      c = ',' ∨ c = '\n' ∨ c = ']' ∨ c = '\x7d' := by
    cases parts with
    | nil =>
        cases style with
        | oneLine =>
            rintro _ ⟨⟩
            exact .inr (.inr h)
        | indented blanks =>
            rintro _ ⟨⟩
            exact .inr (.inl rfl)
    | cons part parts =>
        rintro _ ⟨⟩
        exact .inl rfl
  constructor
  · intro c hc
    rcases hhead c hc with rfl | rfl | rfl | rfl <;> rfl
  · intro c hc
    rcases hhead c hc with rfl | rfl | rfl | rfl <;> decide

/-- The end of the entries is found behind the last of them. -/
theorem skipBlanks_remaining_nil {closing : Char} (h : closing = ']' ∨ closing = '\x7d')
    (rest : List Char) :
    skipBlanks (remaining style depth closing [] ++ rest) = closing :: rest := by
  rw [remaining, List.append_assoc, skipBlanks_lineBreak]
  rcases h with rfl | rfl <;> rfl

/-- Another entry is found behind the comma. -/
theorem skipBlanks_remaining_cons (closing : Char) (part : List Char) (parts : List (List Char))
    (rest : List Char) :
    skipBlanks (remaining style depth closing (part :: parts) ++ rest) =
      ',' :: (gap style depth ++ (part ++ (remaining style depth closing parts ++ rest))) := by
  rw [remaining, List.cons_append, List.append_assoc, List.append_assoc]
  rfl

/-- A value inside a list or a record is read up to what follows it. -/
theorem readValue_inside {v : Value} (h : IsReadAgain v) (style : Style) (depth : Nat)
    {closing : Char} (hclosing : closing = ']' ∨ closing = '\x7d') (parts : List (List Char))
    (rest : List Char) {fuel : Nat} (hfuel : (writeAt style (depth + 1) v).length ≤ fuel) :
    readValue fuel (writeAt style (depth + 1) v ++
        (remaining style depth closing parts ++ rest)) =
      .ok (v, remaining style depth closing parts ++ rest) :=
  h style (depth + 1) fuel _ (endsNumber_remaining hclosing parts rest) hfuel

/-! ## Lists -/

/-- The items of a list are read up to its end. -/
theorem readItems_append {v : Value} {items : List Value} (hv : IsReadAgain v)
    (hitems : ∀ item ∈ items, IsReadAgain item) {fuel : Nat}
    (hfuel : (writeAt style (depth + 1) v ++
      remaining style depth ']' (writeItems style (depth + 1) items)).length ≤ fuel)
    (acc : List Value) (rest : List Char) :
    readItems fuel acc (writeAt style (depth + 1) v ++
        (remaining style depth ']' (writeItems style (depth + 1) items) ++ rest)) =
      .ok (.list (acc.reverse ++ v :: items), rest) := by
  induction items generalizing v acc fuel with
  | nil =>
      rw [List.length_append, writeItems, remaining, List.length_append, List.length_singleton]
        at hfuel
      obtain ⟨fuel, rfl⟩ := Nat.exists_eq_add_one.2 (show 0 < fuel by omega)
      have hfirst : (writeAt style (depth + 1) v).length ≤ fuel := by omega
      rw [readItems, readValue_inside hv style depth (.inl rfl) _ rest hfirst]
      simp only [bind, Except.bind, writeItems, skipBlanks_remaining_nil (.inl rfl)]
      simp [pure, Except.pure]
  | cons item items ih =>
      obtain ⟨hitem, hothers⟩ := List.forall_mem_cons.1 hitems
      rw [List.length_append, writeItems, remaining, List.length_cons, List.length_append] at hfuel
      obtain ⟨fuel, rfl⟩ := Nat.exists_eq_add_one.2 (show 0 < fuel by omega)
      have hfirst : (writeAt style (depth + 1) v).length ≤ fuel := by omega
      have hbegins := begins_of_readValue (readValue_inside hitem style depth (.inl rfl)
        (writeItems style (depth + 1) items) rest le_rfl)
      have hothersRead := ih hitem hothers (show _ ≤ fuel by omega) (v :: acc)
      rw [readItems, readValue_inside hv style depth (.inl rfl) _ rest hfirst]
      simp only [bind, Except.bind, writeItems, skipBlanks_remaining_cons, skipBlanks_gap,
        hbegins.1, hothersRead]
      simp

/-- A list is read again when its items are. -/
theorem isReadAgain_list {items : List Value} (h : ∀ item ∈ items, IsReadAgain item) :
    IsReadAgain (.list items) := by
  intro style depth fuel rest _ hfuel
  rw [writeAt] at hfuel ⊢
  cases items with
  | nil =>
      have hlength : 0 < (enclose style depth '[' ']' []).length := Nat.succ_pos _
      rw [writeItems] at hfuel
      obtain ⟨fuel, rfl⟩ := Nat.exists_eq_add_one.2 (show 0 < fuel by omega)
      rfl
  | cons v items =>
      obtain ⟨hv, hitems⟩ := List.forall_mem_cons.1 h
      rw [writeItems, enclose_cons, List.length_cons, List.length_append] at hfuel
      obtain ⟨fuel, rfl⟩ := Nat.exists_eq_add_one.2 (show 0 < fuel by omega)
      have hless : (writeAt style (depth + 1) v ++
          remaining style depth ']' (writeItems style (depth + 1) items)).length ≤ fuel := by
        omega
      have hread := readItems_append hv hitems hless [] rest
      have hbegins := begins_of_readValue (readValue_inside hv style depth (.inl rfl)
        (writeItems style (depth + 1) items) rest le_rfl)
      rw [writeItems, enclose_cons]
      simp only [List.cons_append, List.append_assoc]
      rw [readValue, skipBlanks_lineBreak, hbegins.1]
      split
      · next after hafter => exact absurd hafter (hbegins.2.2 after)
      · exact hread

/-! ## Records -/

/-- An entry with a text for a key. -/
def writeEntry (style : Style) (depth : Nat) (key : String) (v : Value) : List Char :=
  quote key ++ ": ".toList ++ writeAt style depth v

/-- The entries of a record, the first of them with a text for a key. -/
theorem writeEntries_cons (style : Style) (depth : Nat) (key : String) (v : Value)
    (entries : List (Atom × Value)) :
    writeEntries style depth ((.text key, v) :: entries) =
      writeEntry style depth key v :: writeEntries style depth entries :=
  rfl

/-- An entry has no blanks before it. -/
theorem skipBlanks_writeEntry (style : Style) (depth : Nat) (key : String) (v : Value)
    (rest : List Char) :
    skipBlanks (writeEntry style depth key v ++ rest) = writeEntry style depth key v ++ rest :=
  rfl

/-- A key that differs from those before it is not alike any of them. -/
theorem alike_eq_false_of_nodup {key : String} {v : Value} {acc entries : List (Atom × Value)}
    (hkeys : ∀ entry ∈ acc ++ (.text key, v) :: entries, ∃ key, entry.1 = .text key)
    (hnodup : ((acc ++ (.text key, v) :: entries).map Prod.fst).Nodup) :
    ∀ entry ∈ acc, entry.1.alike (.text key) = false := by
  intro entry hentry
  obtain ⟨other, hother⟩ := hkeys entry (List.mem_append_left _ hentry)
  rw [List.map_append, List.map_cons] at hnodup
  have hne := (List.nodup_append.1 hnodup).2.2 entry.1 (List.mem_map_of_mem hentry) (.text key)
    (List.mem_cons_self ..)
  rw [hother] at hne ⊢
  exact beq_false_of_ne fun heq => hne (congrArg Atom.text heq)

section

variable {key : String} {v : Value} {acc entries : List (Atom × Value)} {fuel : Nat}

/-- An entry inside a record is read up to what follows it. -/
theorem readEntries_inside (h : IsReadAgain v)
    (hkeys : ∀ entry ∈ acc ++ (.text key, v) :: entries, ∃ key, entry.1 = .text key)
    (hnodup : ((acc ++ (.text key, v) :: entries).map Prod.fst).Nodup)
    (hfuel : (writeEntry style (depth + 1) key v).length ≤ fuel) (parts : List (List Char))
    (rest : List Char) :
    readEntries (fuel + 1) acc (writeEntry style (depth + 1) key v ++
        (remaining style depth '\x7d' parts ++ rest)) =
      match skipBlanks (remaining style depth '\x7d' parts ++ rest) with
      | ',' :: more => readEntries fuel (acc ++ [(.text key, v)]) (skipBlanks more)
      | '\x7d' :: more => .ok (.record (acc ++ [(.text key, v)]), more)
      | _ => .error .malformed := by
  have hless : (writeAt style (depth + 1) v).length ≤ fuel := by
    rw [writeEntry, List.length_append] at hfuel
    omega
  have hread := readValue_inside h style depth (.inr rfl) parts rest hless
  have hblank := (begins_of_readValue hread).1
  obtain ⟨body, hbody, hkey⟩ := readString_quote key (": ".toList ++
    (writeAt style (depth + 1) v ++ (remaining style depth '\x7d' parts ++ rest)))
  have hcolon : skipBlanks (": ".toList ++
      (writeAt style (depth + 1) v ++ (remaining style depth '\x7d' parts ++ rest))) =
        ':' :: ' ' :: (writeAt style (depth + 1) v ++
          (remaining style depth '\x7d' parts ++ rest)) :=
    rfl
  have hgap : ∀ chars, skipBlanks (' ' :: chars) = skipBlanks chars := fun _ => rfl
  rw [writeEntry, List.append_assoc, List.append_assoc, hbody, readEntries,
    ← Value.put_of_new (alike_eq_false_of_nodup hkeys hnodup)]
  simp only [hkey, bind, Except.bind, hcolon, hgap, hblank, hread]
  rfl

/-- The entries of a record are read up to its end. -/
theorem readEntries_append (hv : IsReadAgain v) (hentries : ∀ entry ∈ entries, IsReadAgain entry.2)
    (hkeys : ∀ entry ∈ acc ++ (.text key, v) :: entries, ∃ key, entry.1 = .text key)
    (hnodup : ((acc ++ (.text key, v) :: entries).map Prod.fst).Nodup)
    (hfuel : (writeEntry style (depth + 1) key v ++
      remaining style depth '\x7d' (writeEntries style (depth + 1) entries)).length ≤ fuel)
    (rest : List Char) :
    readEntries fuel acc (writeEntry style (depth + 1) key v ++
        (remaining style depth '\x7d' (writeEntries style (depth + 1) entries) ++ rest)) =
      .ok (.record (acc ++ (.text key, v) :: entries), rest) := by
  induction entries generalizing key v acc fuel with
  | nil =>
      rw [List.length_append, writeEntries, remaining, List.length_append, List.length_singleton]
        at hfuel
      obtain ⟨fuel, rfl⟩ := Nat.exists_eq_add_one.2 (show 0 < fuel by omega)
      rw [readEntries_inside hv hkeys hnodup (by omega), writeEntries,
        skipBlanks_remaining_nil (.inr rfl)]
      rfl
  | cons entry entries ih =>
      obtain ⟨other, w⟩ := entry
      obtain ⟨hw, hothers⟩ := List.forall_mem_cons.1 hentries
      obtain ⟨next, rfl⟩ : ∃ next, other = .text next := hkeys (other, w) (by simp)
      have hsplit : acc ++ (.text key, v) :: (.text next, w) :: entries =
          (acc ++ [(.text key, v)]) ++ (.text next, w) :: entries := by
        simp
      rw [List.length_append, writeEntries_cons, remaining, List.length_cons,
        List.length_append] at hfuel
      obtain ⟨fuel, rfl⟩ := Nat.exists_eq_add_one.2 (show 0 < fuel by omega)
      rw [readEntries_inside hv hkeys hnodup (by omega), writeEntries_cons,
        skipBlanks_remaining_cons]
      simp only [skipBlanks_gap, skipBlanks_writeEntry]
      rw [hsplit] at hkeys hnodup ⊢
      exact ih hw hothers hkeys hnodup (by omega)

end

/-- A record is read again when its values are. -/
theorem isReadAgain_record {entries : List (Atom × Value)}
    (hkeys : ∀ entry ∈ entries, ∃ key, entry.1 = .text key)
    (hnodup : (entries.map Prod.fst).Nodup) (h : ∀ entry ∈ entries, IsReadAgain entry.2) :
    IsReadAgain (.record entries) := by
  intro style depth fuel rest _ hfuel
  rw [writeAt] at hfuel ⊢
  cases entries with
  | nil =>
      have hlength : 0 < (enclose style depth '\x7b' '\x7d' []).length := Nat.succ_pos _
      rw [writeEntries] at hfuel
      obtain ⟨fuel, rfl⟩ := Nat.exists_eq_add_one.2 (show 0 < fuel by omega)
      rfl
  | cons entry entries =>
      obtain ⟨other, v⟩ := entry
      obtain ⟨hv, hentries⟩ := List.forall_mem_cons.1 h
      obtain ⟨key, rfl⟩ : ∃ key, other = .text key := hkeys (other, v) (by simp)
      rw [writeEntries_cons, enclose_cons, List.length_cons, List.length_append] at hfuel
      obtain ⟨fuel, rfl⟩ := Nat.exists_eq_add_one.2 (show 0 < fuel by omega)
      have hless : (writeEntry style (depth + 1) key v ++
          remaining style depth '\x7d' (writeEntries style (depth + 1) entries)).length ≤ fuel := by
        omega
      have hall : ∀ entry ∈ [] ++ (.text key, v) :: entries, ∃ key, entry.1 = .text key := hkeys
      rw [writeEntries_cons, enclose_cons]
      simp only [List.cons_append, List.append_assoc]
      rw [readValue, skipBlanks_lineBreak, skipBlanks_writeEntry]
      exact readEntries_append hv hentries hall hnodup hless rest

/-! ## Documents -/

/-- What JSON holds is read again. -/
theorem isReadAgain_of_isJson {v : Value} (h : v.IsJson) : IsReadAgain v := by
  induction h with
  | atom ha => exact isReadAgain_atom ha
  | list _ ih => exact isReadAgain_list ih
  | record hkeys hnodup _ ih => exact isReadAgain_record hkeys hnodup ih

/-- What JSON holds is read from its text as it was, in every layout. -/
theorem read_write {v : Value} (h : v.IsJson) (style : Style) : read (write style v) = .ok v := by
  have hread := isReadAgain_of_isJson h style 0 ((writeAt style 0 v).length + 1) [] endsNumber_nil
    (Nat.le_succ _)
  rw [List.append_nil] at hread
  have hbegins := (begins_of_readValue hread).1
  simp only [read, write, String.toList_ofList, hbegins, hread, bind, Except.bind]
  rfl

end Json

end PagedForm
