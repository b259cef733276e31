import PagedForm.Decision.Basic

/-!
# Written decisions

A decision is written as a chain of conditional expressions over `formData`, the record of the
answers. Constants are texts between single quotes; a backslash and a single quote inside one are
written with a backslash before them. A field whose id is a name is written after a point, any
other between brackets.
-/

namespace PagedForm.Decision

/-- The name of the record of answers. -/
def answersName : String := "formData"

/-- One character of a quoted text. -/
def escapeChar (c : Char) : List Char :=
  if c = '\\' || c = '\'' then ['\\', c] else [c]

/-- The characters between the quotes of a quoted text. -/
def escape (chars : List Char) : List Char :=
  chars.flatMap escapeChar

/-- A text between single quotes. -/
def quote (s : String) : List Char :=
  '\'' :: escape s.toList ++ ['\'']

/-- A value between single quotes; it has to be a text. -/
def quoteLiteral (value : Value) : Result (List Char) :=
  value.asText.map quote

/-- A character that can begin a name. -/
def isNameStart (c : Char) : Bool :=
  c.isAlpha || c = '_' || c = '$'

/-- A character that can stand inside a name. -/
def isNameChar (c : Char) : Bool :=
  isNameStart c || c.isDigit

/-- The characters are a name. -/
def isName : List Char → Bool
  | [] => false
  | c :: rest => isNameStart c && rest.all isNameChar

/-- The answer of a field. -/
def renderAnswer (field : String) : List Char :=
  if isName field.toList then answersName.toList ++ '.' :: field.toList
  else answersName.toList ++ '[' :: quote field ++ [']']

/-- A test. -/
def renderTest (t : Test) : Result (List Char) :=
  (quoteLiteral t.value).map fun value =>
    match t.comparator with
    | .includes => renderAnswer t.field ++ ".includes(".toList ++ value ++ [')']
    | .equals => renderAnswer t.field ++ " === ".toList ++ value

/-- The characters of a written decision. -/
def renderChars : Decision → Result (List Char)
  | .literal value => quoteLiteral value
  | .test t => renderTest t
  | .choose condition yes no => do
      let condition ← condition.renderChars
      let yes ← yes.renderChars
      let no ← no.renderChars
      pure (condition ++ " ? ".toList ++ yes ++ " : ".toList ++ no)
  | .answer field => .ok (renderAnswer field)
  | .foreign => .error .mistyped

/-- The written form of a decision. -/
def render (decision : Decision) : Result String :=
  decision.renderChars.map String.ofList

end PagedForm.Decision
