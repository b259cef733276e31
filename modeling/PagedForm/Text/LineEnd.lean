/-!
# Line ends

A text file may end its lines with a line feed, a carriage return, or both in this order. Reading
one turns each of these into a line feed, so `unify` leaves no carriage return (`not_mem_unify`).
-/

namespace PagedForm.Text

/-- Each line end as a line feed. -/
def unify : List Char → List Char
  | [] => []
  | '\r' :: '\n' :: rest => '\n' :: unify rest
  | c :: rest => (if c = '\r' then '\n' else c) :: unify rest

/-- The content of a text file, each line end as a line feed. -/
def unifyLineEnds (content : String) : String :=
  String.ofList (unify content.toList)

/-- No carriage return is left. -/
theorem not_mem_unify (chars : List Char) : '\r' ∉ unify chars := by
  fun_induction unify chars with
  | case1 => simp
  | case2 rest ih => simp [ih]
  | case3 c rest _ ih =>
      by_cases h : c = '\r'
      · simp [h, ih]
      · simp [h, ih, Ne.symm h]

end PagedForm.Text
