import PagedForm.Value.Basic

/-!
# Equality and order of values

Values are compared loosely: a truth value is the number zero or one, and numbers are compared by
their exact meaning whatever their type. Lists are compared item by item and records without
regard to order. Only numbers, texts and lists of such can be ordered. `same_text_iff` and
`text_same_iff` say what looseness means for texts: nothing. Parts of values are compared by
`alike`, which differs from `same` only for what is no number.
-/

namespace PagedForm

/-- The number that an atom stands for. -/
def Atom.number? : Atom → Option Extended
  | .bool b => some (.ofInt (if b then 1 else 0))
  | .int n => some (.ofInt n)
  | .float x => some x.exact
  | _ => none

/-- Two atoms are equal: as numbers, as texts, or both absent. -/
def Atom.same (a b : Atom) : Bool :=
  match a, b with
  | .null, .null => true
  | .text s, .text t => s == t
  | a, b =>
      match a.number?, b.number? with
      | some x, some y => x.equal y
      | _, _ => false

/-- Two atoms are alike: they are equal, or neither is a number. What is no number equals nothing,
and so without this rule a list that holds it would not even equal itself. -/
def Atom.alike (a b : Atom) : Bool :=
  match a, b with
  | .float .nan, .float .nan => true
  | a, b => a.same b

namespace Value

/-- The value under a key of a record's entries. -/
def find? (key : Atom) : List (Atom × Value) → Option Value
  | [] => none
  | (k, v) :: rest => if k.alike key then some v else find? key rest

/-- Write an entry: in its old place when the key is present, else at the end. -/
def put (key : Atom) (value : Value) : List (Atom × Value) → List (Atom × Value)
  | [] => [(key, value)]
  | (k, v) :: rest => if k.alike key then (k, value) :: rest else (k, v) :: put key value rest

mutual

/-- Two values are alike, as parts of other values are compared. -/
def alike : Value → Value → Bool
  | .atom a, .atom b => a.alike b
  | .list xs, .list ys => alikeItems xs ys
  | .record es, .record fs => es.length == fs.length && alikeEntries es fs
  | .file n s t u, .file n' s' t' u' => alike n n' && alike s s' && alike t t' && alike u u'
  | _, _ => false

/-- Two lists are alike item by item. -/
def alikeItems : List Value → List Value → Bool
  | [], [] => true
  | x :: xs, y :: ys => alike x y && alikeItems xs ys
  | _, _ => false

/-- Every entry of the first record has one like it in the second. -/
def alikeEntries : List (Atom × Value) → List (Atom × Value) → Bool
  | [], _ => true
  | (k, v) :: rest, others =>
      (match find? k others with
        | some w => alike v w
        | none => false) && alikeEntries rest others

end

mutual

/-- What is no number occurs in a value. -/
def holdsNan : Value → Bool
  | .atom a => a == .float .nan
  | .list items => holdsNanItems items
  | .record entries => holdsNanEntries entries
  | .file name size type url => holdsNan name || holdsNan size || holdsNan type || holdsNan url

/-- What is no number occurs in an item of a list. -/
def holdsNanItems : List Value → Bool
  | [] => false
  | v :: rest => holdsNan v || holdsNanItems rest

/-- What is no number occurs in an entry of a record. -/
def holdsNanEntries : List (Atom × Value) → Bool
  | [] => false
  | (k, v) :: rest => k == .float .nan || holdsNan v || holdsNanEntries rest

end

/-- Two values are equal. -/
def same (value other : Value) : Bool :=
  match value, other with
  | .atom a, .atom b => a.same b
  | value, other => alike value other

/-- A list holds a value like this one. -/
def isIn (value : Value) (items : List Value) : Bool :=
  items.any (alike · value)

/-- A value is this text. -/
def isText (value : Value) (s : String) : Bool :=
  value.same (.text s)

/-- Texts are equal only when they are the same text. -/
@[simp] theorem same_text (s t : String) : same (text s) (text t) = (s == t) := by
  simp [same, Atom.same]

/-- Being alike means the same for texts. -/
@[simp] theorem alike_text (s t : String) : alike (text s) (text t) = (s == t) := by
  simp [alike, Atom.alike, Atom.same]

/-- Only a text is equal to a text. -/
theorem same_text_iff {value : Value} {s : String} :
    same value (text s) = true ↔ value = text s := by
  constructor
  · intro h
    cases value with
    | atom a => cases a <;> simp_all [same, Atom.same, Atom.number?]
    | list _ => simp [same, alike] at h
    | record _ => simp [same, alike] at h
    | file _ _ _ _ => simp [same, alike] at h
  · rintro rfl
    simp

/-- A text is equal only to a text. -/
theorem text_same_iff {s : String} {value : Value} :
    same (text s) value = true ↔ value = text s := by
  constructor
  · intro h
    cases value with
    | atom a => cases a <;> simp_all [same, Atom.same, Atom.number?]
    | list _ => simp [same, alike] at h
    | record _ => simp [same, alike] at h
    | file _ _ _ _ => simp [same, alike] at h
  · rintro rfl
    simp

/-- Only a text is like a text. -/
theorem alike_to_text_iff {value : Value} {s : String} :
    alike value (text s) = true ↔ value = text s := by
  cases value with
  | atom a => cases a <;> simp [alike, Atom.alike, Atom.same, Atom.number?]
  | list _ => simp [alike]
  | record _ => simp [alike]
  | file _ _ _ _ => simp [alike]

/-- A list holds a text exactly when the text is one of its items. -/
theorem text_isIn_iff {s : String} {items : List Value} :
    (text s).isIn items = true ↔ text s ∈ items := by
  simp [isIn, alike_to_text_iff]

/-- An atom lies above another: by number or by text. Other pairs cannot be ordered. -/
def atomAbove? (a b : Atom) : Option Bool :=
  match a, b with
  | .text s, .text t => some (t < s)
  | a, b =>
      match a.number?, b.number? with
      | some x, some y => some (y.less x)
      | _, _ => none

mutual

/-- The first value lies above the second; `none` when the two cannot be ordered. -/
def above? : Value → Value → Option Bool
  | .atom a, .atom b => atomAbove? a b
  | .list xs, .list ys => itemsAbove? xs ys
  | _, _ => none

/-- Lists are ordered by their first items that differ, else by length. -/
def itemsAbove? : List Value → List Value → Option Bool
  | [], _ => some false
  | _ :: _, [] => some true
  | x :: xs, y :: ys => if alike x y then itemsAbove? xs ys else above? x y

end

end Value

end PagedForm
