import PagedForm.Binary64.Basic

/-!
# Values

The data that forms, answers and documents are made of. Most attributes of a form are not
checked when it is read, so they are values of any shape and come back as they were. A record
keeps its entries in the order in which they were written; its keys are atoms, since a document
may use a number or a truth value as a key.
-/

namespace PagedForm

/-- A value without parts. -/
inductive Atom where
  | null
  | bool (b : Bool)
  | int (n : Int)
  | float (x : Binary64)
  | text (s : String)
  deriving DecidableEq, Repr

/-- A value: an atom, a list, a record, or the description of an uploaded file by its name, its
size in bytes, its media type and the place where its content can be fetched. -/
inductive Value where
  | atom (a : Atom)
  | list (items : List Value)
  | record (entries : List (Atom × Value))
  | file (name size type url : Value)
  deriving Repr

namespace Value

/-- The absent value. -/
@[match_pattern] abbrev null : Value := .atom .null

/-- A truth value. -/
@[match_pattern] abbrev bool (b : Bool) : Value := .atom (.bool b)

/-- An integer. -/
@[match_pattern] abbrev int (n : Int) : Value := .atom (.int n)

/-- A binary64 number. -/
@[match_pattern] abbrev float (x : Binary64) : Value := .atom (.float x)

/-- A text. -/
@[match_pattern] abbrev text (s : String) : Value := .atom (.text s)

instance : Inhabited Value := ⟨.null⟩

/-- A list of texts. -/
def texts (items : List String) : Value :=
  .list (items.map .text)

/-- A record whose keys are texts. -/
def fields (entries : List (String × Value)) : Value :=
  .record (entries.map fun entry => (.text entry.1, entry.2))

/-- The text of a value that is one. -/
def text? : Value → Option String
  | .text s => some s
  | _ => none

/-- The items of a value that is a list. -/
def list? : Value → Option (List Value)
  | .list items => some items
  | _ => none

/-- The entries of a value that is a record. -/
def record? : Value → Option (List (Atom × Value))
  | .record entries => some entries
  | _ => none

/-- A value is absent. -/
def isNull : Value → Bool
  | .null => true
  | _ => false

/-- A value counts as true: nothing, false, zero, and everything empty do not. -/
def truthy : Value → Bool
  | .null => false
  | .bool b => b
  | .int n => n != 0
  | .float x => !x.isZero
  | .text s => !s.isEmpty
  | .list items => !items.isEmpty
  | .record entries => !entries.isEmpty
  | .file _ _ _ _ => true

/-- The first value if it counts as true, else the second. -/
def orElse (value other : Value) : Value :=
  if value.truthy then value else other

/-- The value if it counts as true, else nothing. -/
def orNull (value : Value) : Value :=
  value.orElse .null

/-- A text counts as true exactly when it is not empty. -/
@[simp] theorem truthy_text (s : String) : (text s).truthy = !s.isEmpty := rfl

/-- A value that counts as true is the first choice. -/
theorem orElse_of_truthy {value other : Value} (h : value.truthy = true) :
    value.orElse other = value := by
  simp [orElse, h]

/-- The word for the type of a value. -/
def typeName : Value → String
  | .null => "NoneType"
  | .bool _ => "bool"
  | .int _ => "int"
  | .float _ => "float"
  | .text _ => "str"
  | .list _ => "list"
  | .record _ => "dict"
  | .file _ _ _ _ => "FileDescriptor"

end Value

/-- What is known about an uploaded file. Like other attributes its parts are not checked. -/
structure FileInfo where
  name : Value
  size : Value
  type : Value
  url : Value
  deriving Repr

namespace FileInfo

/-- The description of a file as a record. -/
def toValue (info : FileInfo) : Value :=
  .fields [("name", info.name), ("size", info.size), ("type", info.type), ("url", info.url)]

/-- The description of a file as a value of its own. -/
def described (info : FileInfo) : Value :=
  .file info.name info.size info.type info.url

end FileInfo

end PagedForm
