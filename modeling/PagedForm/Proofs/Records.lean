import PagedForm.Value.Compare

/-!
# Records

An entry of a record is found and written by its key. A key that is there keeps its place when it is
written again, and any other key comes last.
-/

namespace PagedForm.Value

/-- A key is alike to a text when it is that text. -/
theorem alike_text_iff {key : Atom} {s : String} : key.alike (.text s) = true ↔ key = .text s := by
  cases key with
  | text t => simp [Atom.alike, Atom.same]
  | null | bool | int => simp [Atom.alike, Atom.same, Atom.number?]
  | float x => cases x <;> simp [Atom.alike, Atom.same, Atom.number?]

/-- A written key has the new value and every other text keeps its own. -/
theorem find?_put (name other : String) (value : Value) (entries : List (Atom × Value)) :
    find? (.text other) (put (.text name) value entries) =
      if other = name then some value else find? (.text other) entries := by
  induction entries with
  | nil =>
      by_cases hother : other = name
      · simp [put, find?, alike_text_iff, hother]
      · simp [put, find?, alike_text_iff, hother, Ne.symm hother]
  | cons entry rest ih =>
      obtain ⟨key, old⟩ := entry
      simp only [put, alike_text_iff]
      by_cases hkey : key = .text name
      · subst hkey
        by_cases hother : other = name
        · simp [find?, alike_text_iff, hother]
        · simp [find?, alike_text_iff, hother, Ne.symm hother]
      · simp only [if_neg hkey, find?, ih, alike_text_iff]
        by_cases hother : other = name
        · subst hother
          simp [hkey]
        · simp [hother]

variable {key : Atom} {entries : List (Atom × Value)}

/-- What is in a record after a value was put there was in it before, or has this value. -/
theorem mem_put {v : Value} {entry : Atom × Value} (h : entry ∈ put key v entries) :
    entry ∈ entries ∨ entry.2 = v := by
  induction entries with
  | nil =>
      rw [List.mem_singleton.1 h]
      exact .inr rfl
  | cons first rest ih =>
      rw [put] at h
      split at h
      · rcases List.mem_cons.1 h with rfl | hrest
        · exact .inr rfl
        · exact .inl (List.mem_cons_of_mem _ hrest)
      · rcases List.mem_cons.1 h with rfl | hrest
        · exact .inl (List.mem_cons_self ..)
        · exact (ih hrest).imp_left (List.mem_cons_of_mem _)

/-- A value under a key that is there already leaves the keys as they are. -/
theorem map_fst_put_of_alike (h : ∃ entry ∈ entries, entry.1.alike key = true) (v : Value) :
    (put key v entries).map Prod.fst = entries.map Prod.fst := by
  induction entries with
  | nil =>
      obtain ⟨_, ⟨⟩, _⟩ := h
  | cons first rest ih =>
      rw [put]
      split
      · rfl
      · next hfirst =>
          obtain ⟨entry, hentry, halike⟩ := h
          rcases List.mem_cons.1 hentry with rfl | hrest
          · exact absurd halike hfirst
          · rw [List.map_cons, ih ⟨entry, hrest, halike⟩, List.map_cons]

/-- A value under a new key comes last. -/
theorem put_of_new (h : ∀ entry ∈ entries, entry.1.alike key = false) (v : Value) :
    put key v entries = entries ++ [(key, v)] := by
  induction entries with
  | nil => rfl
  | cons entry entries ih =>
      obtain ⟨hfirst, hothers⟩ := List.forall_mem_cons.1 h
      rw [put, if_neg (by simp [hfirst]), ih hothers, List.cons_append]

end PagedForm.Value
