import PagedForm.Decision.Token

/-!
# Reading decisions

A written decision is read back from its tokens by descent. What follows the tokens of a decision
is handed on, and nothing may follow the whole one.

    decision  := comparison ? decision : decision | STRING
    comparison := reference === STRING | reference . includes ( STRING )
    reference := formData . NAME | formData [ STRING ]
-/

namespace PagedForm.Decision

/-- A constant with its escapes removed: a backslash stands for the character after it. -/
def unescape : List Char → List Char
  | [] => []
  | [c] => [c]
  | c :: d :: rest => if c = '\\' then d :: unescape rest else c :: unescape (d :: rest)

/-- The text of the token that was found. -/
def foundText (tokens : List Token) : Option String :=
  tokens.head?.map Token.text

/-- The tokens after the one that is due. -/
def expect (due : String) (tokens : List Token) : Except DecisionFault (List Token) :=
  match tokens with
  | token :: rest =>
      if token.chars = due.toList then .ok rest
      else .error (.expected due (some token.text))
  | [] => .error (.expected due none)

/-- The constant at the front, and the tokens after it. -/
def parseString (tokens : List Token) : Except DecisionFault (String × List Token) :=
  match tokens with
  | .string raw :: rest => .ok (String.ofList (unescape raw), rest)
  | _ => .error (.expectedString (foundText tokens))

/-- The token at the front is this mark. -/
def startsWith (mark : String) (tokens : List Token) : Bool :=
  match tokens with
  | token :: _ => token.chars = mark.toList
  | [] => false

/-- The field referred to at the front, and the tokens after the reference. -/
def parseReference (tokens : List Token) : Except DecisionFault (String × List Token) := do
  let tokens ← expect answersName tokens
  if startsWith "[" tokens then
    let (field, tokens) ← parseString (tokens.drop 1)
    let tokens ← expect "]" tokens
    pure (field, tokens)
  else
    let tokens ← expect "." tokens
    match tokens with
    | .name chars :: rest => pure (String.ofList chars, rest)
    | _ => throw .expectedField

/-- The test at the front, and the tokens after it. -/
def parseTest (tokens : List Token) : Except DecisionFault (Test × List Token) := do
  let (field, tokens) ← parseReference tokens
  if startsWith "===" tokens then
    let (value, tokens) ← parseString (tokens.drop 1)
    pure (⟨.equals, field, .text value⟩, tokens)
  else
    let tokens ← expect "." tokens
    let tokens ← expect "includes" tokens
    let tokens ← expect "(" tokens
    let (value, tokens) ← parseString tokens
    let tokens ← expect ")" tokens
    pure (⟨.includes, field, .text value⟩, tokens)

/-- The decision at the front, and the tokens after it. Each level of nesting takes tokens, so
their count bounds the depth. -/
def parseTokens : (fuel : Nat) → List Token → Except DecisionFault (Decision × List Token)
  | 0, _ => .error .empty
  | fuel + 1, tokens =>
      match tokens with
      | .string raw :: rest => .ok (.literal (.text (String.ofList (unescape raw))), rest)
      | _ => do
          let (t, tokens) ← parseTest tokens
          let tokens ← expect "?" tokens
          let (yes, tokens) ← parseTokens fuel tokens
          let tokens ← expect ":" tokens
          let (no, tokens) ← parseTokens fuel tokens
          pure (.choose (.test t) yes no, tokens)

/-- The decision that a text spells. -/
def parse (text : String) : Except DecisionFault Decision := do
  let tokens ← Token.scan text
  let (decision, rest) ← parseTokens (tokens.length + 1) tokens
  if rest.isEmpty then pure decision else throw (.leftover (rest.map Token.text))

end PagedForm.Decision
