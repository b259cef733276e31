/-!
# Ordered tables

A table is a list of keyed entries in the order in which the keys were first written. Writing
to a key that is present keeps its place. `find?_put` states the two look-up laws at once,
`find?_erase`, `find?_merge`, `find?_ofEntries` and `find?_map` those of erasing, of writing a
whole table or a list of entries and of changing every entry, `keys_put_of_not_mem` and
`keys_put_of_mem` say what writing does to the order of the keys, and `ofEntries_of_nodup` that
entries with distinct keys are a table as they stand.
-/

namespace PagedForm

/-- Keyed entries in the order of their first writing. -/
abbrev Table (α : Type) := List (String × α)

namespace Table

variable {α β : Type}

/-- The entry under a key. -/
def find? (key : String) : Table α → Option α
  | [] => none
  | (k, a) :: rest => if k = key then some a else find? key rest

/-- Write an entry: in its old place when the key is present, else at the end. -/
def put (key : String) (value : α) : Table α → Table α
  | [] => [(key, value)]
  | (k, a) :: rest => if k = key then (k, value) :: rest else (k, a) :: put key value rest

/-- The table without a key. -/
def erase (key : String) (table : Table α) : Table α :=
  table.filter fun entry => entry.1 ≠ key

/-- The keys in order. -/
def keys (table : Table α) : List String :=
  table.map Prod.fst

/-- The key has an entry. -/
def has (key : String) (table : Table α) : Bool :=
  (table.find? key).isSome

/-- Write the entries of a second table over the first, in order. -/
def merge (table new : Table α) : Table α :=
  new.foldl (fun acc entry => acc.put entry.1 entry.2) table

/-- The table that results from writing entries one after the other. -/
def ofEntries (entries : List (String × α)) : Table α :=
  merge [] entries

/-- A written key has the new entry and every other key keeps its own. -/
theorem find?_put (key other : String) (value : α) (table : Table α) :
    (table.put key value).find? other =
      if other = key then some value else table.find? other := by
  induction table with
  | nil =>
      by_cases h : key = other
      · simp [put, find?, h]
      · simp [put, find?, h, Ne.symm h]
  | cons entry rest ih =>
      obtain ⟨k, a⟩ := entry
      simp only [put]
      by_cases hk : k = key
      · subst hk
        by_cases ho : k = other
        · simp [find?, ho]
        · simp [find?, ho, Ne.symm ho]
      · simp only [if_neg hk, find?, ih]
        by_cases ho : k = other
        · subst ho
          simp [hk]
        · simp [ho]

/-- A key is not found exactly when no entry has it. -/
theorem find?_eq_none {key : String} {table : Table α} :
    table.find? key = none ↔ key ∉ table.keys := by
  induction table with
  | nil => simp [find?, keys]
  | cons entry rest ih =>
      obtain ⟨k, a⟩ := entry
      by_cases hk : k = key
      · simp [find?, keys, hk]
      · simpa [find?, keys, hk, Ne.symm hk] using ih

/-- An erased key has no entry and every other key keeps its own. -/
theorem find?_erase (key other : String) (table : Table α) :
    (table.erase key).find? other = if other = key then none else table.find? other := by
  induction table with
  | nil => simp [erase, find?]
  | cons entry rest ih =>
      obtain ⟨k, a⟩ := entry
      by_cases hk : k = key
      · have herase : erase key ((k, a) :: rest) = erase key rest := by simp [erase, hk]
        rw [herase, ih]
        by_cases ho : other = key
        · rw [if_pos ho, if_pos ho]
        · rw [if_neg ho, if_neg ho, find?, if_neg fun e => ho (e.symm.trans hk)]
      · have herase : erase key ((k, a) :: rest) = (k, a) :: erase key rest := by simp [erase, hk]
        rw [herase, find?, find?, ih]
        by_cases ho : k = other
        · rw [if_pos ho, if_pos ho, if_neg fun e => hk (ho.trans e)]
        · rw [if_neg ho, if_neg ho]

/-- When no key has two entries, each entry is found under its key. -/
theorem find?_of_mem {key : String} {a : α} {table : Table α} (h : table.keys.Nodup)
    (hmem : (key, a) ∈ table) : table.find? key = some a := by
  induction table with
  | nil => cases hmem
  | cons entry rest ih =>
      obtain ⟨k, b⟩ := entry
      obtain ⟨hfirst, hrest⟩ := List.nodup_cons.1 h
      rcases List.mem_cons.1 hmem with heq | hmem
      · cases heq
        rw [find?, if_pos rfl]
      · have hk : k ≠ key := by
          rintro rfl
          exact hfirst (List.mem_map.2 ⟨_, hmem, rfl⟩)
        rw [find?, if_neg hk, ih hrest hmem]

/-- What is found under a key is an entry. -/
theorem mem_of_find? {key : String} {a : α} {table : Table α} (h : table.find? key = some a) :
    (key, a) ∈ table := by
  induction table with
  | nil => cases h
  | cons entry rest ih =>
      obtain ⟨k, b⟩ := entry
      rw [find?] at h
      split at h
      · next hkey =>
          cases h
          exact hkey ▸ List.mem_cons_self
      · exact List.mem_cons_of_mem _ (ih h)

/-- In two tables one after the other, the first one that has the key gives the entry. -/
theorem find?_append (key : String) (first second : Table α) :
    Table.find? key (first ++ second) = (first.find? key).or (second.find? key) := by
  induction first with
  | nil => rfl
  | cons entry rest ih =>
      obtain ⟨k, a⟩ := entry
      rw [List.cons_append, find?, find?, ih]
      split <;> rfl

/-- What is not found is not found in the other order either. -/
theorem find?_reverse_eq_none {key : String} {table : Table α} :
    Table.find? key table.reverse = none ↔ table.find? key = none := by
  rw [find?_eq_none, find?_eq_none, keys, List.map_reverse, List.mem_reverse]
  rfl

/-- When no key has two entries, their order does not matter. -/
theorem find?_reverse {table : Table α} (h : table.keys.Nodup) (key : String) :
    Table.find? key table.reverse = table.find? key := by
  cases hfind : table.find? key with
  | none => exact find?_reverse_eq_none.2 hfind
  | some a =>
      refine find?_of_mem ?_ (List.mem_reverse.2 (mem_of_find? hfind))
      rw [keys, List.map_reverse]
      exact List.pairwise_reverse.2 (h.imp Ne.symm)

/-- Of the entries that are written to a key the last one counts, and a key that is not written
keeps its own. -/
theorem find?_merge_last (key : String) (table new : Table α) :
    (table.merge new).find? key = (Table.find? key new.reverse).or (table.find? key) := by
  induction new generalizing table with
  | nil => rfl
  | cons entry rest ih =>
      obtain ⟨k, a⟩ := entry
      show ((table.put k a).merge rest).find? key = _
      rw [ih, find?_put, List.reverse_cons, find?_append, Option.or_assoc]
      by_cases hk : k = key
      · simp [find?, hk]
      · simp [find?, hk, Ne.symm hk]

/-- A key that is not among those written keeps its entry. -/
theorem find?_merge_of_find?_eq_none {key : String} {table new : Table α}
    (h : new.find? key = none) : (table.merge new).find? key = table.find? key := by
  rw [find?_merge_last, find?_reverse_eq_none.2 h, Option.none_or]

/-- When no key is written twice, every key has the entry that is written to it, or keeps its
own. -/
theorem find?_merge {new : Table α} (h : new.keys.Nodup) (key : String) (table : Table α) :
    (table.merge new).find? key = (new.find? key).or (table.find? key) := by
  rw [find?_merge_last, find?_reverse h]

/-- In a table that is written entry by entry the last entry of a key counts. -/
theorem find?_ofEntries (key : String) (entries : List (String × α)) :
    (ofEntries entries).find? key = Table.find? key entries.reverse := by
  rw [ofEntries, find?_merge_last]
  exact Option.or_none

/-- What is found among entries made from items is made from the first item with the key. -/
theorem find?_map_items (name : β → String) (value : β → α) (key : String) (items : List β) :
    Table.find? key (items.map fun item => (name item, value item)) =
      (items.find? fun item => name item = key).map value := by
  induction items with
  | nil => rfl
  | cons item rest ih =>
      rw [List.map_cons, find?, List.find?_cons, ih]
      by_cases hname : name item = key
      · simp [hname]
      · simp [hname]

/-- Where every entry is changed, what is found is the changed entry. -/
theorem find?_map (f : α → β) (key : String) (table : Table α) :
    Table.find? key (table.map fun entry => (entry.1, f entry.2)) = (table.find? key).map f := by
  induction table with
  | nil => rfl
  | cons entry rest ih =>
      obtain ⟨k, a⟩ := entry
      rw [List.map_cons, find?, find?, ih]
      split <;> rfl

/-- An entry with a new key is written at the end. -/
theorem put_of_not_mem {key : String} {value : α} {table : Table α} (h : key ∉ table.keys) :
    table.put key value = table ++ [(key, value)] := by
  induction table with
  | nil => rfl
  | cons entry rest ih =>
      obtain ⟨k, a⟩ := entry
      simp only [keys, List.map_cons, List.mem_cons, not_or] at h
      rw [put, if_neg (Ne.symm h.1), ih h.2, List.cons_append]

/-- Writing to a new key adds it at the end. -/
theorem keys_put_of_not_mem {key : String} {value : α} {table : Table α}
    (h : key ∉ table.keys) : (table.put key value).keys = table.keys ++ [key] := by
  rw [put_of_not_mem h, keys, List.map_append]
  rfl

/-- Writing to a present key leaves the keys as they are. -/
theorem keys_put_of_mem {key : String} {value : α} {table : Table α}
    (h : key ∈ table.keys) : (table.put key value).keys = table.keys := by
  induction table with
  | nil => simp [keys] at h
  | cons entry rest ih =>
      obtain ⟨k, a⟩ := entry
      by_cases hk : k = key
      · simp [put, hk, keys]
      · simp only [keys, List.map_cons, List.mem_cons] at h
        have hr : key ∈ keys rest := h.resolve_left fun e => hk e.symm
        simp only [put, if_neg hk, keys, List.map_cons, List.cons.injEq, true_and]
        exact ih hr

/-- Entries with new keys, none of them twice, are written at the end. -/
theorem merge_of_nodup {table new : Table α} (h : (keys (table ++ new)).Nodup) :
    table.merge new = table ++ new := by
  -- Each step moves the first of the new entries to the end of the table.
  induction new generalizing table with
  | nil => exact (List.append_nil table).symm
  | cons entry rest ih =>
      obtain ⟨k, a⟩ := entry
      have hnew : k ∉ table.keys := by
        rw [keys, List.map_append] at h
        exact fun hmem => (List.nodup_append.1 h).2.2 k hmem k List.mem_cons_self rfl
      show (table.put k a).merge rest = _
      rw [List.append_cons] at h
      rw [put_of_not_mem hnew, ih h, ← List.append_cons]

/-- When no key is written twice, the table that results from writing entries is the entries. -/
theorem ofEntries_of_nodup {entries : List (String × α)} (h : (keys entries).Nodup) :
    ofEntries entries = entries :=
  merge_of_nodup h

end Table

end PagedForm
