import PagedForm.Yaml.Reader

/-!
# Records with distinct keys

A record that `Yaml.reader` reads was settled, so no key of it is like one that comes before it.
-/

namespace PagedForm.Yaml

/-- The keys of a record that is read from a file are distinct when those of texts are. -/
theorem Reader.HasDistinctKeys.fromFile {α : Type} {reader : Reader String α}
    (h : reader.HasDistinctKeys) : reader.fromFile.HasDistinctKeys :=
  fun content => h (Text.unifyLineEnds content)

end PagedForm.Yaml
