import PagedForm.Value.Compare
import PagedForm.Binary64.Decimal
import PagedForm.Text.Quoted

/-!
# Texts of values

A value has two texts. Its inspected text shows it inside a message or a list, with texts in
quotes; its shown text is the same except that a text stands for itself.
-/

namespace PagedForm

/-- The inspected text of an atom. -/
def Atom.inspect : Atom → String
  | .null => "None"
  | .bool b => if b then "True" else "False"
  | .int n => toString n
  | .float x => x.shown
  | .text s => Text.inspect s

/-- The shown text of an atom: a text stands for itself. -/
def Atom.shown : Atom → String
  | .text s => s
  | a => a.inspect

namespace Value

mutual

/-- The inspected text of a value. -/
def inspect : Value → String
  | .atom a => a.inspect
  | .list items => "[" ++ ", ".intercalate (inspectItems items) ++ "]"
  | .record entries => "\x7b" ++ ", ".intercalate (inspectEntries entries) ++ "\x7d"
  | .file name size type url =>
      "FileDescriptor(name=" ++ inspect name ++ ", size=" ++ inspect size ++ ", type=" ++
        inspect type ++ ", url=" ++ inspect url ++ ")"

/-- The inspected texts of a list's items. -/
def inspectItems : List Value → List String
  | [] => []
  | v :: rest => inspect v :: inspectItems rest

/-- The inspected texts of a record's entries. -/
def inspectEntries : List (Atom × Value) → List String
  | [] => []
  | (k, v) :: rest => (k.inspect ++ ": " ++ inspect v) :: inspectEntries rest

end

/-- The shown text of a value. -/
def shown : Value → String
  | .text s => s
  | v => v.inspect

/-- A text is shown as it is. -/
@[simp] theorem shown_text (s : String) : (text s).shown = s := rfl

end Value

end PagedForm
