/-!
# Blank characters

Which characters count as blank when titles are tested for emptiness, when numerals are
trimmed, and when words are split apart. The class follows the bidirectional white space and
separator properties of Unicode, together with the four information separators of ASCII.
`blank_of_isWhitespace` says that every character of the core class is among them, and
`flatten_words` that splitting words apart loses nothing but blanks.
-/

namespace PagedForm.Text

/-- The closed ranges of code points that are blank. -/
def blankRanges : List (Nat × Nat) :=
  [(0x09, 0x0D), (0x1C, 0x20), (0x85, 0x85), (0xA0, 0xA0), (0x1680, 0x1680),
   (0x2000, 0x200A), (0x2028, 0x2029), (0x202F, 0x202F), (0x205F, 0x205F),
   (0x3000, 0x3000)]

/-- A code point lies in one of the closed ranges. -/
def inRanges (ranges : List (Nat × Nat)) (code : Nat) : Bool :=
  ranges.any fun range => range.1 ≤ code && code ≤ range.2

/-- A character is blank. -/
def isBlank (c : Char) : Bool :=
  inRanges blankRanges c.toNat

/-- Every character that core Lean calls white space is blank. -/
theorem blank_of_isWhitespace {c : Char} (h : c.isWhitespace = true) : isBlank c = true := by
  simp only [Char.isWhitespace, Bool.or_eq_true, decide_eq_true_eq] at h
  rcases h with ((h | h) | h) | h <;> subst h <;> decide

/-- The characters left when blanks are dropped at both ends. -/
def trimList (chars : List Char) : List Char :=
  ((chars.dropWhile isBlank).reverse.dropWhile isBlank).reverse

/-- A text without the blanks at its ends. -/
def trim (text : String) : String :=
  String.ofList (trimList text.toList)

/-- A text holds nothing but blanks. -/
def allBlank (text : String) : Bool :=
  text.toList.all isBlank

/-- Split characters into maximal runs of non-blank ones; `current` is the run being read,
in reverse. -/
def wordsFrom (current : List Char) : List Char → List (List Char)
  | [] => if current.isEmpty then [] else [current.reverse]
  | c :: rest =>
      if isBlank c then
        if current.isEmpty then wordsFrom [] rest
        else current.reverse :: wordsFrom [] rest
      else wordsFrom (c :: current) rest

/-- The maximal runs of non-blank characters. -/
def words (chars : List Char) : List (List Char) :=
  wordsFrom [] chars

/-- No word is empty. -/
theorem ne_nil_of_mem_wordsFrom {current chars word : List Char}
    (h : word ∈ wordsFrom current chars) : word ≠ [] := by
  induction chars generalizing current with
  | nil =>
      simp only [wordsFrom] at h
      split at h
      · simp at h
      · simp_all
  | cons c rest ih =>
      simp only [wordsFrom] at h
      split at h
      · split at h
        · exact ih h
        · rcases List.mem_cons.1 h with rfl | h
          · simp_all
          · exact ih h
      · exact ih h

/-- The words hold what was read before them and every character that is not blank, in order. -/
theorem flatten_wordsFrom (current chars : List Char) :
    (wordsFrom current chars).flatten = current.reverse ++ chars.filter fun c => !isBlank c := by
  induction chars generalizing current with
  | nil => cases current <;> simp [wordsFrom]
  | cons c rest ih =>
      rw [wordsFrom, List.filter_cons]
      cases hblank : isBlank c with
      | true => cases current <;> simp [ih]
      | false => simp [ih]

/-- The words hold every character that is not blank, in order. -/
theorem flatten_words (chars : List Char) :
    (words chars).flatten = chars.filter fun c => !isBlank c :=
  flatten_wordsFrom [] chars

end PagedForm.Text
