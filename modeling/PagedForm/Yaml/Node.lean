import PagedForm.Yaml.Token

/-!
# YAML nodes

The tree that the tokens of a document describe, before plain scalars are told apart. What may be
left out is an empty plain scalar: a value after a colon, an item after a dash, a key after a
question mark.
-/

namespace PagedForm.Yaml

/-- A node of a document. -/
inductive Node where
  | scalar (text : String) (plain : Bool)
  | sequence (items : List Node)
  | mapping (entries : List (Node × Node))
  deriving Repr, Inhabited

/-- What was left out. -/
def Node.empty : Node := .scalar "" true

namespace Node

/-- The tokens begin with one of these. -/
def beginsWith (tokens : List Token) (these : List Token) : Bool :=
  match tokens with
  | token :: _ => these.contains token
  | [] => false

/-- The failure when the tokens do not go on as they have to: the cause for which they were broken
off, if it is only that. -/
def unexpected {α : Type} (tokens : List Token) : Reading α :=
  match tokens with
  | .broken cause :: _ => .error cause
  | _ => malformed

/-- The tokens after one that has to stand at the front. -/
def expect (token : Token) (tokens : List Token) : Reading (List Token) :=
  match tokens with
  | first :: rest => if first = token then .ok rest else unexpected tokens
  | [] => malformed

mutual

/-- The node at the front. Blocks may begin only where `block` says so, and items without
indentation of their own only after a key of a block. -/
def read : (fuel : Nat) → (block afterKey : Bool) → List Token → Reading (Node × List Token)
  | 0, _, _, _ => malformed
  | fuel + 1, block, afterKey, tokens =>
      match tokens with
      | .scalar text plain :: rest => .ok (.scalar text plain, rest)
      | .flowSequence :: rest => flowItems fuel [] rest
      | .flowMapping :: rest => flowEntries fuel [] rest
      | .blockEntry :: _ => if afterKey then looseItems fuel [] tokens else malformed
      | .blockSequence :: rest => if block then blockItems fuel [] rest else malformed
      | .blockMapping :: rest => if block then blockEntries fuel [] rest else malformed
      | _ => unexpected tokens

/-- The node at the front, unless one of these tokens says that it was left out. -/
def readUnless : (fuel : Nat) → (stops : List Token) → (block afterKey : Bool) → List Token →
    Reading (Node × List Token)
  | 0, _, _, _, _ => malformed
  | fuel + 1, stops, block, afterKey, tokens =>
      if beginsWith tokens stops then .ok (.empty, tokens) else read fuel block afterKey tokens

/-- The items of an indented list. -/
def blockItems : (fuel : Nat) → (acc : List Node) → List Token → Reading (Node × List Token)
  | 0, _, _ => malformed
  | fuel + 1, acc, tokens =>
      match tokens with
      | .blockEntry :: rest => do
          let (item, after) ← readUnless fuel [.blockEntry, .blockEnd] true false rest
          blockItems fuel (item :: acc) after
      | _ => (expect .blockEnd tokens).map fun rest => (.sequence acc.reverse, rest)

/-- The items of a list that stands at the indentation of its key. -/
def looseItems : (fuel : Nat) → (acc : List Node) → List Token → Reading (Node × List Token)
  | 0, _, _ => malformed
  | fuel + 1, acc, tokens =>
      match tokens with
      | .blockEntry :: rest => do
          let (item, after) ←
            readUnless fuel [.blockEntry, .key, .value, .blockEnd] true false rest
          looseItems fuel (item :: acc) after
      | _ => .ok (.sequence acc.reverse, tokens)

/-- The value after a key, when there is one. -/
def readValue : (fuel : Nat) → (stops : List Token) → (block : Bool) → List Token →
    Reading (Node × List Token)
  | 0, _, _, _ => malformed
  | fuel + 1, stops, block, tokens =>
      match tokens with
      | .value :: rest => readUnless fuel stops block block rest
      | _ => .ok (.empty, tokens)

/-- The entries of an indented record. -/
def blockEntries : (fuel : Nat) → (acc : List (Node × Node)) → List Token →
    Reading (Node × List Token)
  | 0, _, _ => malformed
  | fuel + 1, acc, tokens =>
      let stops := [Token.key, .value, .blockEnd]
      match tokens with
      | .key :: rest => do
          let (key, afterKey) ← readUnless fuel stops true true rest
          let (value, after) ← readValue fuel stops true afterKey
          blockEntries fuel ((key, value) :: acc) after
      | _ => (expect .blockEnd tokens).map fun rest => (.mapping acc.reverse, rest)

/-- The items of a list between brackets. An item with a colon is a record of one entry. -/
def flowItems : (fuel : Nat) → (acc : List Node) → List Token → Reading (Node × List Token)
  | 0, _, _ => malformed
  | fuel + 1, acc, tokens => do
      match tokens with
      | .flowSequenceEnd :: rest => pure (.sequence acc.reverse, rest)
      | _ => do
          let tokens ← if acc.isEmpty then pure tokens else expect .flowEntry tokens
          match tokens with
          | .flowSequenceEnd :: rest => pure (.sequence acc.reverse, rest)
          | .key :: rest => do
              let (key, afterKey) ←
                readUnless fuel [.value, .flowEntry, .flowSequenceEnd] false false rest
              let (value, after) ← readValue fuel [.flowEntry, .flowSequenceEnd] false afterKey
              flowItems fuel (.mapping [(key, value)] :: acc) after
          | _ => do
              let (item, after) ← read fuel false false tokens
              flowItems fuel (item :: acc) after

/-- The entries of a record between brackets. An entry without a colon has an empty value. -/
def flowEntries : (fuel : Nat) → (acc : List (Node × Node)) → List Token →
    Reading (Node × List Token)
  | 0, _, _ => malformed
  | fuel + 1, acc, tokens => do
      match tokens with
      | .flowMappingEnd :: rest => pure (.mapping acc.reverse, rest)
      | _ => do
          let tokens ← if acc.isEmpty then pure tokens else expect .flowEntry tokens
          match tokens with
          | .flowMappingEnd :: rest => pure (.mapping acc.reverse, rest)
          | .key :: rest => do
              let (key, afterKey) ←
                readUnless fuel [.value, .flowEntry, .flowMappingEnd] false false rest
              let (value, after) ← readValue fuel [.flowEntry, .flowMappingEnd] false afterKey
              flowEntries fuel ((key, value) :: acc) after
          | _ => do
              let (key, after) ← read fuel false false tokens
              flowEntries fuel ((key, .empty) :: acc) after

end

/-- The node of the only document of a text, if it has one. -/
def ofTokens (tokens : List Token) : Reading (Option Node) := do
  let fuel := 3 * tokens.length + 3
  let atStop (rest : List Token) : Bool :=
    rest.isEmpty || beginsWith rest [.documentStart, .documentEnd]
  let finish (node : Option Node) (rest : List Token) : Reading (Option Node) :=
    match rest.dropWhile (· = .documentEnd) with
    | [] => .ok node
    | more => unexpected more
  let explicit (rest : List Token) : Reading (Option Node) := do
    if atStop rest then finish (some .empty) rest
    else
      let (node, after) ← read fuel true false rest
      finish (some node) after
  match tokens with
  | [] => pure none
  | .documentStart :: rest => explicit rest
  | _ => do
      let (node, after) ← read fuel true false tokens
      finish (some node) after

end Node

end PagedForm.Yaml
