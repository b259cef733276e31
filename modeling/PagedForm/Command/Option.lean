import PagedForm.Text.Digit

/-!
# Options on a command line

Arguments are options, the values of options, and operands. An option has a long name, a short one
of a single letter, or both; a long name may be cut short as long as one option only begins with
it, and a value may be attached: after an equals sign, or directly after a short name. Two dashes
end the options. `mark` tells the arguments apart, one by one, before any of them is used.
-/

namespace PagedForm.Command

/-- An option: its names with their dashes, and whether it takes a value. -/
structure OptionSpec where
  names : List String
  takesValue : Bool
  deriving DecidableEq, Repr

/-- Why arguments give no task: they are not well formed, or they ask for help. -/
inductive Refusal where
  | usage
  | help
  deriving DecidableEq, Repr

/-- What an argument is. An option comes with what is attached to its name. -/
inductive Mark where
  | operand
  | endOfOptions
  | option (name : String) (spec : OptionSpec) (attached : Option (List Char))
  | unknown
  deriving DecidableEq, Repr

/-- An argument with what it is. -/
structure Argument where
  text : String
  mark : Mark
  deriving DecidableEq, Repr

/-- The name is a long one. -/
def isLong (name : List Char) : Bool :=
  name.take 2 = ['-', '-']

/-- The text without a line feed at its end. -/
def dropLineFeed (chars : List Char) : List Char :=
  if chars.getLast? = some '\n' then chars.dropLast else chars

/-- The text looks like a negative number; a line feed may end it. -/
def isNegativeNumber (chars : List Char) : Bool :=
  match dropLineFeed chars with
  | '-' :: rest =>
      let whole := rest.takeWhile Text.isDecimal
      match rest.drop whole.length with
      | [] => !whole.isEmpty
      | '.' :: fraction => !fraction.isEmpty && fraction.all Text.isDecimal
      | _ => false
  | _ => false

/-- The names of options with their options. -/
def allNames (specs : List OptionSpec) : List (String × OptionSpec) :=
  specs.flatMap fun spec => spec.names.map fun name => (name, spec)

/-- The option with a name. -/
def spec? (specs : List OptionSpec) (name : String) : Option OptionSpec :=
  (allNames specs).findSome? fun entry => if entry.1 = name then some entry.2 else none

/-- The part before the first equals sign, and what is attached by it. -/
def splitAtSign (chars : List Char) : List Char × Option (List Char) :=
  match chars.dropWhile (· ≠ '=') with
  | _ :: value => (chars.takeWhile (· ≠ '='), some value)
  | [] => (chars, none)

/-- The options that an argument may mean, although it is the name of none. -/
def candidates (specs : List OptionSpec) (chars : List Char) : List Mark :=
  if isLong chars then
    let (start, attached) := splitAtSign chars
    (allNames specs).filterMap fun entry =>
      if start.isPrefixOf entry.1.toList then some (.option entry.1 entry.2 attached) else none
  else
    (allNames specs).filterMap fun entry =>
      if entry.1.toList = chars.take 2 then
        some (.option entry.1 entry.2 (some (chars.drop 2)))
      else none

/-- What an argument before the end of the options is. A blank or a negative number makes it an
operand when it is no option. -/
def markOne (specs : List OptionSpec) (text : String) : Except Refusal Mark :=
  let chars := text.toList
  if chars.head? ≠ some '-' then .ok .operand
  else
    match spec? specs text with
    | some spec => .ok (.option text spec none)
    | none =>
        if chars.length = 1 then .ok .operand
        else
          let (start, attached) := splitAtSign chars
          match attached, spec? specs (String.ofList start) with
          | some a, some spec => .ok (.option (String.ofList start) spec (some a))
          | _, _ =>
              match candidates specs chars with
              | [found] => .ok found
              | _ :: _ :: _ => .error .usage
              | [] =>
                  if isNegativeNumber chars || chars.contains ' ' then .ok .operand
                  else .ok .unknown

/-- What each argument is. -/
def mark (specs : List OptionSpec) : List String → Except Refusal (List Argument)
  | [] => .ok []
  | text :: rest =>
      if text = "--" then
        .ok (⟨text, .endOfOptions⟩ :: rest.map fun operand => ⟨operand, .operand⟩)
      else do
        let found ← markOne specs text
        let others ← mark specs rest
        pure (⟨text, found⟩ :: others)

/-- Each argument is kept. -/
theorem map_text_mark {specs : List OptionSpec} {texts : List String} {found : List Argument}
    (h : mark specs texts = .ok found) : found.map Argument.text = texts := by
  induction texts generalizing found with
  | nil => simp_all [mark]
  | cons text rest ih =>
      simp only [mark] at h
      split at h
      · obtain rfl := Except.ok.inj h
        simp [Function.comp_def]
      · cases h₁ : markOne specs text with
        | error _ => simp [h₁, bind, Except.bind] at h
        | ok m =>
            cases h₂ : mark specs rest with
            | error _ => simp [h₁, h₂, bind, Except.bind] at h
            | ok others =>
                simp only [h₁, h₂, bind, Except.bind, pure, Except.pure] at h
                obtain rfl := Except.ok.inj h
                simp [ih h₂]

/-- The first argument as a value, when it is an operand. -/
def operand? : List Argument → Option (String × List Argument)
  | ⟨text, .operand⟩ :: rest => some (text, rest)
  | _ => none

/-- An option in use: its names and its value, if it takes one. -/
structure Use where
  spec : OptionSpec
  value : Option String
  deriving DecidableEq, Repr

/-- What an option uses with nothing attached to it: the operand after it, if it takes a value. -/
def useAlone (spec : OptionSpec) (rest : List Argument) :
    Except Refusal (List Use × List Argument) :=
  if spec.takesValue then
    match operand? rest with
    | some (value, rest) => .ok ([⟨spec, some value⟩], rest)
    | none => .error .usage
  else .ok ([⟨spec, none⟩], rest)

/-- What an option uses of what is attached to it. A value is taken whole; after a short name of an
option without a value, each character has to be the letter of another option. -/
def useAttached (specs : List OptionSpec) (name : List Char) (spec : OptionSpec) :
    List Char → List Argument → Except Refusal (List Use × List Argument)
  | chars, rest =>
      if spec.takesValue then .ok ([⟨spec, some (String.ofList chars)⟩], rest)
      else if isLong name then .error .usage
      else
        match chars with
        | [] => .error .usage
        | c :: more =>
            match spec? specs (String.ofList ['-', c]) with
            | none => .error .usage
            | some next => do
                let (others, rest) ←
                  if more.isEmpty then useAlone next rest
                  else useAttached specs ['-', c] next more rest
                pure (⟨spec, none⟩ :: others, rest)

/-- What an option uses of its attachment or of the arguments after it. -/
def usesOf (specs : List OptionSpec) (name : String) (spec : OptionSpec)
    (attached : Option (List Char)) (rest : List Argument) :
    Except Refusal (List Use × List Argument) :=
  match attached with
  | some chars => useAttached specs name.toList spec chars rest
  | none => useAlone spec rest

end PagedForm.Command
