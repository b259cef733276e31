import PagedForm.Fault

/-!
# Names of files

What a name tells of a file before it is opened: its ending, and whether there can be such a file.
`lastPart_append` says that slashes separate the parts of a name.
-/

namespace PagedForm.FileName

/-- The characters after the last slash. -/
def lastPart (chars : List Char) : List Char :=
  (chars.reverse.takeWhile (· ≠ '/')).reverse

/-- What follows a slash is the last part when it has no slash itself. -/
theorem lastPart_append {front last : List Char} (h : '/' ∉ last) :
    lastPart (front ++ '/' :: last) = last := by
  have reversed : (front ++ '/' :: last).reverse = last.reverse ++ '/' :: front.reverse := by simp
  have noSlash : ∀ c ∈ last.reverse, decide (c ≠ '/') = true := by
    intro c hc
    have : c ≠ '/' := by
      rintro rfl
      exact h (List.mem_reverse.1 hc)
    simpa using this
  rw [lastPart, reversed, List.takeWhile_append_of_pos noSlash]
  simp

/-- The ending of a file name: its last point and what follows. A name that begins or ends with
its last point has none. -/
def ending (name : String) : List Char :=
  let chars := lastPart name.toList
  let tail := (chars.reverse.takeWhile (· ≠ '.')).reverse
  if tail.isEmpty || chars.length ≤ tail.length + 1 then [] else '.' :: tail

/-- A name with a null character is the name of no file, and is refused before any file is
sought. -/
def check (name : String) : Result Unit :=
  if name.toList.contains '\x00' then .error (.value .nullInName) else .ok ()

/-- A name that is not refused holds no null character. -/
theorem check_eq_ok_iff {name : String} : check name = .ok () ↔ '\x00' ∉ name.toList := by
  simp [check]

end PagedForm.FileName
