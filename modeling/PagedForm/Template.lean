import PagedForm.Fault
import PagedForm.Table
import PagedForm.Text.Numeral

/-!
# Templates

A text that begins with `#` is a reference: the rest names a path, with its keys joined by
points, into a tree of values supplied when a page is shown. A reference whose path is broken or
ends in nothing is left as it is, so a page never shows a blank where a value was expected. The
index of a list's item is read like any other integer, and one with too many digits is a fault.
`splitPoints_append` says that a point ends a key and nothing else does.
-/

namespace PagedForm.Template

/-- A text is a reference. -/
def isReference (text : String) : Bool :=
  text.toList.head? == some '#'

/-- A value is a reference. -/
def isTemplate (value : Value) : Bool :=
  match value with
  | .text s => isReference s
  | _ => false

/-- The pieces of a text between its points. -/
def splitPoints : List Char → List (List Char)
  | [] => [[]]
  | c :: rest =>
      if c = '.' then [] :: splitPoints rest
      else
        match splitPoints rest with
        | piece :: pieces => (c :: piece) :: pieces
        | [] => [[c]]

/-- The keys of a reference. -/
def keysOf (text : String) : List String :=
  (splitPoints (text.toList.drop 1)).map String.ofList

/-- One step of a path: an entry of a record, or an item of a list by its index. An index with too
many digits is a fault. -/
def step (key : String) : Value → Result (Option Value)
  | .record entries => .ok (Value.find? (.text key) entries)
  | .list items =>
      match Text.decimalIndex? key with
      | none => .ok none
      | some index =>
          if Text.maxDigits < key.length then .error (.value (.longNumeral key.length))
          else .ok items[index]?
  | _ => .ok none

/-- The value at the end of a path. -/
def walk : List String → Value → Result (Option Value)
  | [], value => .ok (some value)
  | key :: rest, value => do
      match ← step key value with
      | some found => walk rest found
      | none => pure none

/-- A value that would show as a blank. -/
def isBlankValue : Value → Bool
  | .null => true
  | .text s => s.isEmpty
  | .list items => items.isEmpty
  | .record entries => entries.isEmpty
  | _ => false

/-- What a reference shows when this was found at the end of its path. -/
def shown (reference : Value) : Option Value → Value
  | some found => if isBlankValue found then reference else found
  | none => reference

/-- The value that a reference stands for in a context; other values stand for themselves. -/
def resolve (value context : Value) : Result Value :=
  match value with
  | .text s =>
      if isReference s then (walk (keysOf s) context).map (shown value)
      else .ok value
  | other => .ok other

/-- The references offered to authors. -/
def suggestions : List String :=
  ["#workorder.scopeOfWork", "#workorder.clientDescription", "#workorder.priority",
   "#workorder.location", "#client.name", "#client.email", "#client.phone",
   "#technician.name", "#technician.id", "#technician.trade"]

/-- A context in which every suggestion resolves. -/
def sampleContext : Value :=
  .fields
    [("workorder", .fields
        [("scopeOfWork", .text "Sample work order description"),
         ("clientDescription", .text "Sample client description"),
         ("priority", .text "High"),
         ("location", .text "Sample location")]),
     ("client", .fields
        [("name", .text "John Doe"),
         ("email", .text "john.doe@example.com"),
         ("phone", .text "(555) 123-4567")]),
     ("technician", .fields
        [("name", .text "Jane Smith"),
         ("id", .text "TECH001"),
         ("trade", .text "Electrician")])]

/-- A text without points is one piece. -/
theorem splitPoints_of_not_mem {chars : List Char} (h : '.' ∉ chars) :
    splitPoints chars = [chars] := by
  induction chars with
  | nil => rfl
  | cons c rest ih =>
      simp only [List.mem_cons, not_or] at h
      simp [splitPoints, Ne.symm h.1, ih h.2]

/-- A point ends the first piece. -/
theorem splitPoints_append {chars rest : List Char} (h : '.' ∉ chars) :
    splitPoints (chars ++ '.' :: rest) = chars :: splitPoints rest := by
  induction chars with
  | nil => simp [splitPoints]
  | cons c cs ih =>
      simp only [List.mem_cons, not_or] at h
      simp [splitPoints, Ne.symm h.1, ih h.2]

end PagedForm.Template
