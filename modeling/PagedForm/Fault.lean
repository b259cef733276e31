import PagedForm.Field.Kind
import PagedForm.Value.Display

/-!
# Faults

Why an operation gave no result, as causes. The wording of each cause is in one `message`
function for each family. A cause without a wording of its own is named in angle brackets, which
is also how it appears at the end of a message that wraps it.
-/

namespace PagedForm

/-- A value that an operation could not use. -/
inductive ValueFault where
  /-- The value has the wrong type for the operation. -/
  | mistyped
  /-- The value does not have the operation. -/
  | unsupported
  /-- The number is too large. -/
  | overflow
  /-- The index is the place of no item. -/
  | noItem
  /-- A record lacks a required key. -/
  | missingKey (key : String)
  /-- The text does not spell an integer. -/
  | badNumeral (text : String)
  /-- The text spells an integer with more digits than are read. -/
  | longNumeral (digits : Nat)
  /-- The number is not one that has a whole part. -/
  | undefinedNumber
  /-- The text cannot be written as a number. -/
  | notNumber
  /-- The value names no field kind. -/
  | unknownKind (given : Value)
  /-- The value names no diagram mode. -/
  | unknownMode (given : Value)
  /-- The number is the code of no character. -/
  | noCharacter
  /-- The name of a file holds a null character. -/
  | nullInName
  /-- The text for a file holds a half of a surrogate pair. -/
  | halfInText
  /-- What reads a file gave up with this message. -/
  | unread (message : String)
  deriving Repr

/-- An unusable numeral is cut to this many characters when it is reported. -/
def reportedNumeralLength : Nat := 200

/-- The wording of a value fault. -/
def ValueFault.message : ValueFault → String
  | .mistyped => "<TypeError>"
  | .unsupported => "<AttributeError>"
  | .overflow => "<OverflowError>"
  | .noItem => "<IndexError>"
  | .missingKey key => Text.inspect key
  | .badNumeral text =>
      "invalid literal for int() with base 10: " ++
        String.ofList ((Text.inspect text).toList.take reportedNumeralLength)
  | .longNumeral digits =>
      "Exceeds the limit (4300 digits) for integer string conversion: value has " ++
        toString digits ++
        " digits; use sys.set_int_max_str_digits() to increase the limit"
  | .undefinedNumber => "cannot convert float NaN to integer"
  | .notNumber => "Unknown format code 'g' for object of type 'str'"
  | .unknownKind given => given.inspect ++ " is not a valid FieldKind"
  | .unknownMode given => given.inspect ++ " is not a valid DotMode"
  | .noCharacter => "chr() arg not in range(0x110000)"
  | .nullInName => "embedded null byte"
  | .halfInText => "<UnicodeEncodeError>"
  | .unread message => message

/-- A field that cannot be defined. -/
inductive FieldFault where
  /-- The kind is none of the known ones. -/
  | unknownKind (given : Value)
  /-- The attributes do not fit the kind. -/
  | badAttributes (kind : FieldKind)
  /-- The id is not a text or is empty. -/
  | badId
  /-- The default of a field that holds text is not a text. -/
  | textDefault (id : String) (given : Value)
  /-- The default of a checkbox field is not a list of texts. -/
  | choicesDefault (id : String)
  /-- The default of a single file is not a file. -/
  | fileDefault (id : String)
  /-- The default of several files is not a list of files. -/
  | filesDefault (id : String)
  deriving Repr

/-- The wording of a field fault. -/
def FieldFault.message : FieldFault → String
  | .unknownKind given => "Unknown field kind: " ++ given.inspect
  | .badAttributes kind =>
      "Invalid attributes for " ++ kind.name ++ " field: " ++ ValueFault.mistyped.message
  | .badId => "Field id must be a non-empty string"
  | .textDefault id given =>
      "Field " ++ Text.inspect id ++ ": default value must be a string, got " ++ given.typeName
  | .choicesDefault id =>
      "Field " ++ Text.inspect id ++ ": checkbox default must be a sequence of strings"
  | .fileDefault id =>
      "Field " ++ Text.inspect id ++ ": single-file default must be one file descriptor"
  | .filesDefault id =>
      "Field " ++ Text.inspect id ++
        ": multiple-file default must be a sequence of file descriptors"

/-- An edit that cannot be applied. -/
inductive EditFault where
  /-- The form has no page at the index. -/
  | noPage (index : Int)
  /-- A form keeps at least one page. -/
  | lastPage
  /-- Fields are changed through the field edits only. -/
  | fieldsNotEditable
  /-- A page does not have a changed attribute. -/
  | badPageChange
  /-- A field cannot take the changes. -/
  | badFieldChange (kind : FieldKind) (id : String)
  /-- The page has no field with the id. -/
  | noField (id : Value) (page : Value)
  /-- The page already has a field with the id. -/
  | takenId (id : Value) (page : Value)
  /-- A position of a move lies outside the page. -/
  | badMove (source target : Int) (page : Value)
  deriving Repr

/-- The wording of an edit fault. -/
def EditFault.message : EditFault → String
  | .noPage index => "No step at index " ++ toString index
  | .lastPage => "Cannot delete the last page"
  | .fieldsNotEditable => "Use the field operations to change fields"
  | .badPageChange => ValueFault.mistyped.message
  | .badFieldChange kind id =>
      "Invalid change for " ++ kind.name ++ " field " ++ Text.inspect id ++ ": " ++
        ValueFault.mistyped.message
  | .noField id page => "Field " ++ id.inspect ++ " not found in step " ++ page.inspect
  | .takenId id page => "Field id " ++ id.inspect ++ " already exists in step " ++ page.inspect
  | .badMove source target page =>
      "Cannot move field " ++ toString source ++ " -> " ++ toString target ++ " in step " ++
        page.inspect

/-- A document that is no form. -/
inductive DocumentFault where
  /-- The document is not a record. -/
  | notRecord
  /-- A field of the document cannot be defined. -/
  | badField (cause : FieldFault)
  /-- A part of the document is missing or has the wrong type. -/
  | malformed (cause : ValueFault)
  /-- The text is not JSON. -/
  | notJson
  /-- The text is not YAML. -/
  | notYaml
  deriving Repr

/-- The wording of a document fault. -/
def DocumentFault.message : DocumentFault → String
  | .notRecord => "Flow document must be a mapping"
  | .badField cause => "Cannot load flow (invalid field): " ++ cause.message
  | .malformed cause => "Cannot load flow (malformed document): " ++ cause.message
  | .notJson => "Invalid JSON: <JSONDecodeError>"
  | .notYaml => "Invalid YAML: <YAMLError>"

/-- A text that is no decision. -/
inductive DecisionFault where
  /-- A character that begins no token, with its place. -/
  | badCharacter (c : Char) (offset : Nat)
  /-- There is no token. -/
  | empty
  /-- Another token stands where this one is due; `none` is the end of the text. -/
  | expected (token : String) (found : Option String)
  /-- Another token stands where a string is due. -/
  | expectedString (found : Option String)
  /-- No field name follows the point. -/
  | expectedField
  /-- Tokens are left after the decision. -/
  | leftover (tokens : List String)
  deriving DecidableEq, Repr

/-- The name of the token that was found, or of the end of the text. -/
def DecisionFault.foundText (found : Option String) : String :=
  Text.inspect (found.getD "end of expression")

/-- The wording of a decision fault. -/
def DecisionFault.message : DecisionFault → String
  | .badCharacter c offset =>
      "Unexpected character " ++ Text.inspect (String.singleton c) ++ " at offset " ++
        toString offset
  | .empty => "Empty expression"
  | .expected token found => "Expected " ++ Text.inspect token ++ ", got " ++ foundText found
  | .expectedString found => "Expected string literal, got " ++ foundText found
  | .expectedField => "Expected field identifier after 'formData.'"
  | .leftover tokens =>
      "Unexpected tokens after expression: " ++ (Value.texts tokens).inspect

/-- Settings that cannot be read. -/
inductive SettingsFault where
  /-- The file cannot be opened. -/
  | unreadable (path : String)
  /-- The file is not YAML. -/
  | notYaml (path : String)
  /-- The document is not a record. -/
  | notRecord (path : String)
  deriving DecidableEq, Repr

/-- The wording of a settings fault. -/
def SettingsFault.message : SettingsFault → String
  | .unreadable path => "Cannot read settings from " ++ path ++ ": <OSError>"
  | .notYaml path => "Cannot read settings from " ++ path ++ ": <YAMLError>"
  | .notRecord path => "Settings file " ++ path ++ " must contain a mapping"

/-- A page that cannot be picked. -/
inductive SelectionFault where
  /-- The form has no page. -/
  | noPages
  /-- No page has the name or the number. -/
  | unknown (selector : String)
  deriving DecidableEq, Repr

/-- The wording of a selection fault. -/
def SelectionFault.message : SelectionFault → String
  | .noPages => "Flow has no steps"
  | .unknown selector => "No step named or numbered " ++ Text.inspect selector

/-- A text that gives no moment. -/
inductive MomentFault where
  /-- The text does not have the form of a moment. -/
  | malformed
  /-- There is no such year. -/
  | year (number : Nat)
  /-- There is no such month. -/
  | month
  /-- The month has no such day. -/
  | day
  /-- There is no such hour. -/
  | hour
  /-- There is no such minute. -/
  | minute
  /-- There is no such second. -/
  | second
  /-- The local clock is a day or more from the universal one, by this many microseconds. -/
  | offset (micros : Int)
  deriving DecidableEq, Repr

/-- A span of time in days, seconds and microseconds, of which only the days may be negative. -/
def spanText (micros : Int) : String :=
  let seconds := Int.fdiv micros 1000000
  let parts : List (String × Int) :=
    [("days", Int.fdiv seconds 86400), ("seconds", Int.fmod seconds 86400),
     ("microseconds", Int.fmod micros 1000000)]
  let shown := (parts.filter fun part => part.2 != 0).map fun part =>
    part.1 ++ "=" ++ toString part.2
  "datetime.timedelta(" ++ ", ".intercalate shown ++ ")"

/-- The wording of a moment fault. -/
def MomentFault.message (text : String) : MomentFault → String
  | .malformed => "Invalid isoformat string: " ++ Text.inspect text
  | .year number => "year " ++ toString number ++ " is out of range"
  | .month => "month must be in 1..12"
  | .day => "day is out of range for month"
  | .hour => "hour must be in 0..23"
  | .minute => "minute must be in 0..59"
  | .second => "second must be in 0..59"
  | .offset micros =>
      "offset must be a timedelta strictly between -timedelta(hours=24) and " ++
        "timedelta(hours=24), not " ++ spanText micros ++ "."

/-- Why an operation gave no result. -/
inductive Fault where
  | value (cause : ValueFault)
  | field (cause : FieldFault)
  | edit (cause : EditFault)
  | document (cause : DocumentFault)
  | decision (cause : DecisionFault)
  | settings (cause : SettingsFault)
  | selection (cause : SelectionFault)
  | moment (text : String) (cause : MomentFault)
  deriving Repr

/-- The wording of a fault. -/
def Fault.message : Fault → String
  | .value cause => cause.message
  | .field cause => cause.message
  | .edit cause => cause.message
  | .document cause => cause.message
  | .decision cause => cause.message
  | .settings cause => cause.message
  | .selection cause => cause.message
  | .moment text cause => cause.message text

/-- The result of an operation that may fail. -/
abbrev Result (α : Type) := Except Fault α

namespace Result

variable {α β : Type}

/-- What follows a success goes on with its result. -/
theorem ok_bind {ε : Type} (a : α) (next : α → Except ε β) :
    (.ok a : Except ε α) >>= next = next a := rfl

/-- Two operations in a row succeed when the first does and the second does with its result. Why
they may fail does not matter. -/
theorem bind_eq_ok {ε : Type} {first : Except ε α} {next : α → Except ε β} {b : β} :
    first >>= next = .ok b ↔ ∃ a, first = .ok a ∧ next a = .ok b := by
  cases first <;> simp [bind, Except.bind]

/-- A changed result is a success when the result is one. -/
theorem map_eq_ok {ε : Type} {first : Except ε α} {change : α → β} {b : β} :
    first.map change = .ok b ↔ ∃ a, first = .ok a ∧ change a = b := by
  cases first <;> simp [Except.map]

end Result

namespace Fault

/-- The fault of a value of the wrong type. -/
abbrev mistyped : Fault := .value .mistyped

/-- The fault of a value that does not have an operation. -/
abbrev unsupported : Fault := .value .unsupported

end Fault

namespace Value

/-- The entry that must be under a key of a record. -/
def require (value : Value) (key : String) : Result Value :=
  match value with
  | .record entries =>
      match find? (.text key) entries with
      | some v => .ok v
      | none => .error (.value (.missingKey key))
  | _ => .error .mistyped

/-- The entry that may be under a key of a record. -/
def look (value : Value) (key : String) : Result (Option Value) :=
  match value with
  | .record entries => .ok (find? (.text key) entries)
  | _ => .error .unsupported

/-- The items that a value runs through: those of a list, the characters of a text, the keys of
a record. -/
def elements : Value → Result (List Value)
  | .list items => .ok items
  | .text s => .ok (s.toList.map fun c => .text (String.singleton c))
  | .record entries => .ok (entries.map fun entry => .atom entry.1)
  | _ => .error .mistyped

/-- The text of a value that must be one. -/
def asText : Value → Result String
  | .text s => .ok s
  | _ => .error .unsupported

/-- Texts joined by a separator; every item must be a text. -/
def joinTexts (separator : String) (items : List Value) : Result String := do
  let parts ← items.mapM fun item =>
    match item with
    | .text s => Except.ok s
    | _ => .error Fault.mistyped
  pure (separator.intercalate parts)

/-- A list is its own elements. -/
@[simp] theorem elements_list (items : List Value) : (list items).elements = .ok items := rfl

end Value

end PagedForm
