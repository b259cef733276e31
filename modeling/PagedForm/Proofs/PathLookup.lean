import Mathlib.Data.List.Forall2
import PagedForm.Proofs.Failures
import PagedForm.Proofs.Field.Reloaded
import PagedForm.Template

/-!
# Looking up what a reference stands for

`Template.Reaches` says where a path leads in a tree of values: through the entries of records and
the items of lists, one part for each key. A reference shows what its path reaches unless that is
blank, and else itself; and a text that was reached stays the one that is shown when the tree grows
around it. `Template.resolves_unless_long` also has the one exception: a list that is met at a key
of more decimal digits than are read as an integer is a fault, whether it has such an item or not.
-/

namespace PagedForm

/-! ## Indices -/

namespace Text

/-- The decimal digits of a text, of any script and at least one, spell a number. -/
def Spells (text : String) (n : Nat) : Prop :=
  ∃ digits, List.Forall₂ (fun c digit => decimalValue? c = some digit) text.toList digits ∧
    digits ≠ [] ∧ ofDigits digits = n

/-- Digits are read one after the other. -/
theorem readDecimal_eq_some {chars : List Char} {acc n : Nat} :
    readDecimal acc chars = some n ↔
      ∃ digits, List.Forall₂ (fun c digit => decimalValue? c = some digit) chars digits ∧
        digits.foldl (fun acc digit => acc * 10 + digit) acc = n := by
  induction chars generalizing acc with
  | nil => simp [readDecimal]
  | cons c rest ih =>
      cases hc : decimalValue? c with
      | none => simp [readDecimal, hc, List.forall₂_cons_left_iff]
      | some value => simp [readDecimal, hc, ih, List.forall₂_cons_left_iff]

/-- Reading more digits never gives a smaller number. -/
theorem le_of_readDecimal {chars : List Char} {acc n : Nat} (h : readDecimal acc chars = some n) :
    acc ≤ n := by
  induction chars generalizing acc with
  | nil => exact (Option.some.inj h).le
  | cons c rest ih =>
      rw [readDecimal] at h
      split at h
      · have hrest := ih h
        omega
      · cases h

/-- An index is the number that a text spells. -/
theorem decimalIndex?_eq_some {text : String} {n : Nat} :
    decimalIndex? text = some n ↔ Spells text n := by
  unfold decimalIndex? Spells
  split
  · next hempty =>
      have hnil : text.toList = [] := by simpa using hempty
      simp [hnil]
  · next hgiven =>
      rw [readDecimal_eq_some]
      refine exists_congr fun digits => and_congr_right fun hdigits => ?_
      have hne : digits ≠ [] := by
        rintro rfl
        exact hgiven (by simpa using List.forall₂_nil_right_iff.1 hdigits)
      exact (and_iff_right hne).symm

/-- Decimal digits always spell a number. -/
theorem exists_decimalIndex? {text : String} (hne : text ≠ "")
    (h : ∀ c ∈ text.toList, isDecimal c = true) : ∃ n, decimalIndex? text = some n := by
  have hdigits : List.Forall₂ (fun c digit => decimalValue? c = some digit) text.toList
      (text.toList.map fun c => (decimalValue? c).getD 0) := by
    rw [List.forall₂_map_right_iff, List.forall₂_same]
    intro c hc
    obtain ⟨value, hvalue⟩ := Option.isSome_iff_exists.1 (h c hc)
    simp [hvalue]
  exact ⟨_, decimalIndex?_eq_some.2 ⟨_, hdigits, by simpa using hne, rfl⟩⟩

/-- A text that spells a number has decimal digits only. -/
theorem isDecimal_of_decimalIndex? {text : String} {n : Nat} (h : decimalIndex? text = some n) :
    ∀ c ∈ text.toList, isDecimal c = true := by
  obtain ⟨digits, hdigits, -⟩ := decimalIndex?_eq_some.1 h
  generalize text.toList = chars at hdigits
  clear h
  induction hdigits with
  | nil => exact List.forall_mem_nil _
  | cons hc _ ih => exact List.forall_mem_cons.2 ⟨by simp [isDecimal, hc], ih⟩

end Text

/-! ## Trees that grow -/

/-- A value becomes another one when records gain entries and lists gain items at their ends, at any
depth. No key and no item is lost, and each of them grows in the same way. -/
inductive Value.GrowsTo : Value → Value → Prop where
  | same (value : Value) : GrowsTo value value
  | list {items others : List Value} : items.length ≤ others.length →
      (∀ (index : Nat) (item other : Value), items[index]? = some item →
        others[index]? = some other → GrowsTo item other) →
      GrowsTo (.list items) (.list others)
  | record {entries others : List (Atom × Value)} :
      (∀ key, (find? key entries).isSome = true → (find? key others).isSome = true) →
      (∀ (key : Atom) (value other : Value), find? key entries = some value →
        find? key others = some other → GrowsTo value other) →
      GrowsTo (.record entries) (.record others)

namespace Value

/-- Only a text is found among fields. -/
theorem eq_text_of_find?_fields {table : Table Value} {key : Atom} {value : Value}
    (h : find? key (table.map fun entry => (.text entry.1, entry.2)) = some value) :
    ∃ name, key = .text name := by
  induction table with
  | nil => cases h
  | cons entry rest ih =>
      rw [List.map_cons, find?] at h
      split at h
      · next halike =>
          refine ⟨entry.1, ?_⟩
          cases key with
          | text name => rw [eq_of_beq halike]
          | null | bool | int | float => simp [Atom.alike, Atom.same, Atom.number?] at halike
      · exact ih h

/-- A record of fields grows when every field is kept and grows. -/
theorem growsTo_fields {table other : Table Value}
    (h : ∀ name value, table.find? name = some value →
      ∃ larger, other.find? name = some larger ∧ value.GrowsTo larger) :
    (fields table).GrowsTo (fields other) := by
  refine .record (fun key hkey => ?_) fun key value larger hvalue hlarger => ?_
  · obtain ⟨value, hvalue⟩ := Option.isSome_iff_exists.1 hkey
    obtain ⟨name, rfl⟩ := eq_text_of_find?_fields hvalue
    rw [find?_fields] at hvalue ⊢
    obtain ⟨larger, hlarger, _⟩ := h name value hvalue
    simp [hlarger]
  · obtain ⟨name, rfl⟩ := eq_text_of_find?_fields hvalue
    rw [find?_fields] at hvalue hlarger
    obtain ⟨found, hfound, hgrows⟩ := h name value hvalue
    cases hlarger.symm.trans hfound
    exact hgrows

end Value

namespace Template

/-! ## Keys -/

/-- The reference to what is at the end of a path. -/
def reference (keys : List String) : String :=
  "#" ++ ".".intercalate keys

/-- Pieces without points are found again when points are put between them. -/
theorem splitPoints_intercalate {pieces : List (List Char)} (hne : pieces ≠ [])
    (h : ∀ piece ∈ pieces, '.' ∉ piece) : splitPoints (['.'].intercalate pieces) = pieces := by
  induction pieces with
  | nil => exact absurd rfl hne
  | cons piece rest ih =>
      obtain ⟨hpiece, hrest⟩ := List.forall_mem_cons.1 h
      cases rest with
      | nil =>
          rw [List.intercalate_singleton]
          exact splitPoints_of_not_mem hpiece
      | cons next others =>
          rw [List.intercalate_cons_cons, List.append_assoc, List.singleton_append,
            splitPoints_append hpiece, ih (List.cons_ne_nil _ _) hrest]

/-- A reference has the keys that it is made of. -/
theorem keysOf_reference {keys : List String} (hne : keys ≠ [])
    (h : ∀ key ∈ keys, '.' ∉ key.toList) : keysOf (reference keys) = keys := by
  have hchars : (reference keys).toList.drop 1 = ['.'].intercalate (keys.map String.toList) := by
    simp [reference, String.toList_intercalate]
  rw [keysOf, hchars, splitPoints_intercalate (by simpa using hne) (by simpa using h)]
  simp

/-! ## Paths -/

/-- A key leads from a value to a part of it: from a record to what it holds under the key, and from
a list to the item whose index the key spells. -/
inductive Leads : Value → String → Value → Prop where
  | entry {entries : List (Atom × Value)} {key : String} {part : Value} :
      Value.find? (.text key) entries = some part → Leads (.record entries) key part
  | item {items : List Value} {key : String} {index : Nat} {part : Value} :
      Text.Spells key index → items[index]? = some part → Leads (.list items) key part

/-- A path reaches a value when its keys lead there one after the other. -/
inductive Reaches : Value → List String → Value → Prop where
  | here (value : Value) : Reaches value [] value
  | further {value part found : Value} {key : String} {keys : List String} :
      Leads value key part → Reaches part keys found → Reaches value (key :: keys) found

/-- A key of decimal digits that are too many for an integer. -/
def IsLongIndex (key : String) : Prop :=
  (∀ c ∈ key.toList, Text.isDecimal c = true) ∧ Text.maxDigits < key.length

/-- On its way a path meets a list at a long index. -/
inductive MeetsLongIndex : Value → List String → Prop where
  | here {items : List Value} {key : String} {keys : List String} : IsLongIndex key →
      MeetsLongIndex (.list items) (key :: keys)
  | further {value part : Value} {key : String} {keys : List String} :
      Leads value key part → MeetsLongIndex part keys → MeetsLongIndex value (key :: keys)

/-- A value that would show as a blank: nothing, the empty text, the empty list or record. -/
def IsBlank (value : Value) : Prop :=
  value = .null ∨ value = .text "" ∨ value = .list [] ∨ value = .record []

variable {context larger value part found : Value} {key : String} {keys : List String}

/-- The check for blanks finds them. -/
theorem isBlankValue_iff : isBlankValue value = true ↔ IsBlank value := by
  unfold IsBlank
  cases value with
  | atom a => cases a <;> simp [isBlankValue]
  | list items => cases items <;> simp [isBlankValue]
  | record entries => cases entries <;> simp [isBlankValue]
  | file => simp [isBlankValue]

/-- A path of short keys meets no long index. -/
theorem not_meetsLongIndex (h : ∀ key ∈ keys, key.length ≤ Text.maxDigits) :
    ¬ MeetsLongIndex value keys := by
  intro hmeets
  induction hmeets with
  | here hlong => exact absurd hlong.2 (Nat.not_lt.2 (h _ List.mem_cons_self))
  | further _ _ ih => exact ih fun key hkey => h key (List.mem_cons_of_mem _ hkey)

/-! ## Steps -/

/-- A step from a list at a long index is a fault. -/
theorem step_of_isLongIndex (h : IsLongIndex key) (items : List Value) :
    step key (.list items) = .error (.value (.longNumeral key.length)) := by
  have hne : key ≠ "" := by
    rintro rfl
    exact absurd h.2 (by decide)
  obtain ⟨index, hindex⟩ := Text.exists_decimalIndex? hne h.1
  simp [step, hindex, h.2]

/-- So is a walk that begins with it. -/
theorem walk_of_isLongIndex (h : IsLongIndex key) (items : List Value) (keys : List String) :
    walk (key :: keys) (.list items) = .error (.value (.longNumeral key.length)) :=
  Result.bind_eq_error.2 (.inl (step_of_isLongIndex h items))

/-- Any other step is made where the key leads. -/
theorem step_of_not_isLongIndex (h : ∀ items, value = .list items → ¬ IsLongIndex key) :
    ∃ next, step key value = .ok next ∧ ∀ part, next = some part ↔ Leads value key part := by
  cases value with
  | atom | file =>
      refine ⟨none, rfl, fun part => ⟨fun hsome => (by cases hsome), fun hleads => ?_⟩⟩
      cases hleads
  | record entries =>
      refine ⟨_, rfl, fun part => ⟨.entry, fun hleads => ?_⟩⟩
      cases hleads with
      | entry hfound => exact hfound
  | list items =>
      cases hindex : Text.decimalIndex? key with
      | none =>
          refine ⟨none, by simp [step, hindex], fun part => ⟨fun hsome => (by cases hsome), ?_⟩⟩
          rintro (_ | ⟨hspells, _⟩)
          rw [Text.decimalIndex?_eq_some.2 hspells] at hindex
          cases hindex
      | some index =>
          have hshort : ¬ Text.maxDigits < key.length := fun hlong =>
            h items rfl ⟨Text.isDecimal_of_decimalIndex? hindex, hlong⟩
          refine ⟨items[index]?, by simp [step, hindex, hshort], fun part => ?_⟩
          refine ⟨.item (Text.decimalIndex?_eq_some.1 hindex), ?_⟩
          rintro (_ | ⟨hspells, hitem⟩)
          rw [Text.decimalIndex?_eq_some.2 hspells] at hindex
          cases hindex
          exact hitem

/-- A key leads to one part at most. -/
theorem Leads.unique {other : Value} (h : Leads value key part) (hother : Leads value key other) :
    part = other := by
  cases h with
  | entry hpart =>
      cases hother with
      | entry hfound => exact Option.some.inj (hpart.symm.trans hfound)
  | item hspells hpart =>
      cases hother with
      | item hspelled hfound =>
          rw [← Text.decimalIndex?_eq_some] at hspells hspelled
          cases hspells.symm.trans hspelled
          exact Option.some.inj (hpart.symm.trans hfound)

/-- A walk that meets a long index is a fault. -/
theorem walk_of_meetsLongIndex (h : MeetsLongIndex context keys) :
    ∃ digits, walk keys context = .error (.value (.longNumeral digits)) := by
  induction h with
  | here hlong => exact ⟨_, walk_of_isLongIndex hlong _ _⟩
  | @further value part key keys hleads _ ih =>
      -- The first key leads on, but may be a long index itself: zeros in front of a small one.
      by_cases hlong : ∃ items, value = .list items ∧ IsLongIndex key
      · obtain ⟨items, rfl, hlong⟩ := hlong
        exact ⟨_, walk_of_isLongIndex hlong items keys⟩
      · obtain ⟨next, hstep, hnext⟩ := step_of_not_isLongIndex fun items hlist hkey =>
          hlong ⟨items, hlist, hkey⟩
        obtain ⟨digits, hwalk⟩ := ih
        rw [(hnext part).2 hleads] at hstep
        exact ⟨digits, Result.bind_eq_error.2 (.inr ⟨_, hstep, hwalk⟩)⟩

/-- A walk that meets no long index ends where the path leads, or nowhere when it is broken. -/
theorem walk_of_not_meetsLongIndex (h : ¬ MeetsLongIndex context keys) :
    ∃ last, walk keys context = .ok last ∧
      ∀ found, last = some found ↔ Reaches context keys found := by
  induction keys generalizing context with
  | nil =>
      refine ⟨some context, rfl, fun found => ⟨?_, ?_⟩⟩
      · rintro ⟨⟩
        exact .here _
      · rintro ⟨⟩
        rfl
  | cons key rest ih =>
      obtain ⟨next, hstep, hnext⟩ : ∃ next, step key context = .ok next ∧
          ∀ part, next = some part ↔ Leads context key part := by
        refine step_of_not_isLongIndex fun items hlist hlong => h ?_
        rw [hlist]
        exact .here hlong
      cases next with
      | none =>
          refine ⟨none, Result.bind_eq_ok.2 ⟨none, hstep, rfl⟩, fun found => ?_⟩
          refine ⟨fun hsome => (by cases hsome), fun hreaches => ?_⟩
          cases hreaches with
          | further hleads _ => cases (hnext _).2 hleads
      | some part =>
          have hleads : Leads context key part := (hnext part).1 rfl
          obtain ⟨last, hwalk, hlast⟩ := ih fun hmeets => h (.further hleads hmeets)
          refine ⟨last, Result.bind_eq_ok.2 ⟨some part, hstep, hwalk⟩, fun found => ?_⟩
          rw [hlast]
          refine ⟨.further hleads, fun hreaches => ?_⟩
          cases hreaches with
          | further hother hrest =>
              cases (hnext _).2 hother
              exact hrest

/-! ## Growing -/

/-- Where a key leads it also leads in a tree that has grown, to a part that has. -/
theorem Leads.grown (h : Leads value key part) (hgrows : value.GrowsTo larger) :
    ∃ other, Leads larger key other ∧ part.GrowsTo other := by
  cases hgrows with
  | same => exact ⟨part, h, .same part⟩
  | @record entries others hkeys hparts =>
      cases h with
      | entry hfound =>
          obtain ⟨other, hother⟩ :=
            Option.isSome_iff_exists.1 (hkeys (.text key) (by simp [hfound]))
          exact ⟨other, .entry hother, hparts _ _ _ hfound hother⟩
  | @list items others hlength hparts =>
      cases h with
      | @item _ _ index _ hspells hfound =>
          have hindex : index < others.length :=
            Nat.lt_of_lt_of_le (List.getElem?_eq_some_iff.1 hfound).1 hlength
          have hother := List.getElem?_eq_getElem hindex
          exact ⟨_, .item hspells hother, hparts _ _ _ hfound hother⟩

/-- What a path reaches has grown where the tree has. -/
theorem Reaches.grown (h : Reaches context keys found) (hgrows : context.GrowsTo larger) :
    ∃ other, Reaches larger keys other ∧ found.GrowsTo other := by
  induction h generalizing larger with
  | here => exact ⟨larger, .here larger, hgrows⟩
  | further hleads _ ih =>
      obtain ⟨part, hpart, hgrown⟩ := hleads.grown hgrows
      obtain ⟨other, hother, hfound⟩ := ih hgrown
      exact ⟨other, .further hpart hother, hfound⟩

/-- A path that leads through a tree meets a long index in the grown one only if it does so before
that. -/
theorem Reaches.meetsLongIndex (h : Reaches context keys found) (hgrows : context.GrowsTo larger)
    (hmeets : MeetsLongIndex larger keys) : MeetsLongIndex context keys := by
  induction h generalizing larger with
  | here => cases hmeets
  | @further value part found key keys hleads _ ih =>
      cases hmeets with
      | here hlong =>
          cases hgrows with
          | same | list => exact .here hlong
      | further hother hrest =>
          obtain ⟨other, hgrown, hpart⟩ := hleads.grown hgrows
          cases hgrown.unique hother
          exact .further hleads (ih hpart hrest)

/-! ## References -/

/-- A reference is looked up by walking along its keys. -/
theorem resolve_reference (hne : keys ≠ []) (hpoints : ∀ key ∈ keys, '.' ∉ key.toList)
    (context : Value) : resolve (.text (reference keys)) context =
      (walk keys context).map (shown (.text (reference keys))) := by
  have hreference : isReference (reference keys) = true := by
    simp [isReference, reference]
  rw [resolve, if_pos hreference, keysOf_reference hne hpoints]

/-- A reference to what is reached and is no blank shows it. -/
theorem resolve_of_reaches (hne : keys ≠ []) (hpoints : ∀ key ∈ keys, '.' ∉ key.toList)
    (hmeets : ¬ MeetsLongIndex context keys) (hreaches : Reaches context keys found)
    (hgiven : ¬ IsBlank found) : resolve (.text (reference keys)) context = .ok found := by
  obtain ⟨last, hwalk, hlast⟩ := walk_of_not_meetsLongIndex hmeets
  rw [resolve_reference hne hpoints, hwalk, (hlast found).2 hreaches, Except.map, shown,
    if_neg (mt isBlankValue_iff.1 hgiven)]

/-- A path of keys without points is looked up in every tree. A list at an index of too many digits
on the way is a fault, and nothing else is. Otherwise the reference shows the value that the path
reaches unless that is a blank, and itself when the path reaches a blank or nothing. A text that is
not empty and is reached is also shown in every tree that has grown from this one. -/
theorem resolves_unless_long (hne : keys ≠ []) (hpoints : ∀ key ∈ keys, '.' ∉ key.toList)
    (context : Value) :
    ((∃ digits, resolve (.text (reference keys)) context =
        .error (.value (.longNumeral digits))) ↔ MeetsLongIndex context keys) ∧
      (¬ MeetsLongIndex context keys →
        (∀ found, Reaches context keys found → ¬ IsBlank found →
          resolve (.text (reference keys)) context = .ok found) ∧
        ((∀ found, Reaches context keys found → IsBlank found) →
          resolve (.text (reference keys)) context = .ok (.text (reference keys))) ∧
        ∀ s larger, Reaches context keys (.text s) → s ≠ "" → context.GrowsTo larger →
          resolve (.text (reference keys)) larger = .ok (.text s)) := by
  refine ⟨⟨?_, ?_⟩, fun hmeets => ⟨?_, ?_, ?_⟩⟩
  · rintro ⟨digits, hfault⟩
    by_contra hmeets
    obtain ⟨last, hwalk, _⟩ := walk_of_not_meetsLongIndex hmeets
    rw [resolve_reference hne hpoints, hwalk] at hfault
    cases hfault
  · intro hmeets
    obtain ⟨digits, hwalk⟩ := walk_of_meetsLongIndex hmeets
    exact ⟨digits, by rw [resolve_reference hne hpoints, hwalk, Except.map]⟩
  · intro found hreaches hgiven
    exact resolve_of_reaches hne hpoints hmeets hreaches hgiven
  · intro hblank
    obtain ⟨last, hwalk, hlast⟩ := walk_of_not_meetsLongIndex hmeets
    rw [resolve_reference hne hpoints, hwalk, Except.map]
    cases last with
    | none => rfl
    | some found =>
        rw [shown, if_pos (isBlankValue_iff.2 (hblank found ((hlast found).1 rfl)))]
  · intro s larger hreaches hgiven hgrows
    obtain ⟨other, hother, hsame⟩ := hreaches.grown hgrows
    -- A text grows to itself only.
    cases hsame with
    | same =>
        refine resolve_of_reaches hne hpoints ?_ hother (by simp [IsBlank, hgiven])
        exact fun hlong => hmeets (hreaches.meetsLongIndex hgrows hlong)

/-- A tree with the code of a site. -/
def sites : Value :=
  .fields [("sites", .list [.fields [("code", .text "S-12")]])]

/-- The tree with a client, a name for the site and a second site. -/
def moreSites : Value :=
  .fields [("client", .text "John Doe"),
    ("sites", .list [.fields [("name", .text "Depot"), ("code", .text "S-12")], .fields []])]

/-- The code of the site is still found after the tree has grown. -/
theorem resolves_unless_long_sites :
    (∀ key ∈ ["sites", "0", "code"], '.' ∉ key.toList) ∧
      ¬ MeetsLongIndex sites ["sites", "0", "code"] ∧
      Reaches sites ["sites", "0", "code"] (.text "S-12") ∧ sites.GrowsTo moreSites ∧
      resolve (.text "#sites.0.code") moreSites = .ok (.text "S-12") := by
  have hpoints : ∀ key ∈ ["sites", "0", "code"], '.' ∉ key.toList := by decide
  have hmeets : ¬ MeetsLongIndex sites ["sites", "0", "code"] := not_meetsLongIndex (by decide)
  have hreaches : Reaches sites ["sites", "0", "code"] (.text "S-12") :=
    .further (.entry rfl) (.further (.item ⟨[0], .cons rfl .nil, by decide, rfl⟩ rfl)
      (.further (.entry rfl) (.here _)))
  have hgrows : sites.GrowsTo moreSites := by
    have hsite : Value.GrowsTo (.fields [("code", .text "S-12")])
        (.fields [("name", .text "Depot"), ("code", .text "S-12")]) := by
      refine Value.growsTo_fields fun name value hvalue => ?_
      simp only [Table.find?, Option.ite_none_right_eq_some, Option.some.injEq] at hvalue
      obtain ⟨rfl, rfl⟩ := hvalue
      exact ⟨_, rfl, .same _⟩
    refine Value.growsTo_fields fun name value hvalue => ?_
    simp only [Table.find?, Option.ite_none_right_eq_some, Option.some.injEq] at hvalue
    obtain ⟨rfl, rfl⟩ := hvalue
    refine ⟨_, rfl, .list (by decide) fun index item other hitem hother => ?_⟩
    obtain rfl : index = 0 := by simpa using (List.getElem?_eq_some_iff.1 hitem).1
    cases hitem
    cases hother
    exact hsite
  obtain ⟨_, hshown⟩ := resolves_unless_long (by decide) hpoints sites
  obtain ⟨_, _, hstays⟩ := hshown hmeets
  exact ⟨hpoints, hmeets, hreaches, hgrows, hstays "S-12" moreSites hreaches (by decide) hgrows⟩

/-- An index with one digit more than are read. -/
def longIndex : String :=
  String.ofList (List.replicate (Text.maxDigits + 1) '1')

/-- Digits that begin with a one do not spell zero. -/
theorem pos_of_spells {chars : List Char} {index : Nat}
    (h : Text.Spells (String.ofList ('1' :: chars)) index) : 0 < index := by
  rw [← Text.decimalIndex?_eq_some, Text.decimalIndex?, if_neg (by simp),
    String.toList_ofList] at h
  exact Text.le_of_readDecimal h

/-- A list has no item at the long index, and yet the reference to it is not shown as it is. -/
theorem long_index_not_resolved :
    (∀ key ∈ ["items", longIndex], '.' ∉ key.toList) ∧
      (∀ found, ¬ Reaches (.fields [("items", .texts ["first"])]) ["items", longIndex] found) ∧
      resolve (.text (reference ["items", longIndex])) (.fields [("items", .texts ["first"])]) =
        .error (.value (.longNumeral (Text.maxDigits + 1))) := by
  have hpoints : ∀ key ∈ ["items", longIndex], '.' ∉ key.toList := by
    simp [longIndex]
  have hlong : IsLongIndex longIndex := by
    refine ⟨fun c hc => ?_, by simp [longIndex]⟩
    obtain rfl : c = '1' := by
      simpa [longIndex] using hc
    rfl
  have hlength : longIndex.length = Text.maxDigits + 1 := by simp [longIndex]
  have hwalk : walk ["items", longIndex] (.fields [("items", .texts ["first"])]) =
      .error (.value (.longNumeral longIndex.length)) :=
    Result.bind_eq_error.2 (.inr ⟨some (.texts ["first"]), rfl, walk_of_isLongIndex hlong _ []⟩)
  refine ⟨hpoints, ?_, ?_⟩
  · have hpos (index : Nat) (hspells : Text.Spells longIndex index) : 0 < index := by
      rw [longIndex, List.replicate_succ] at hspells
      exact pos_of_spells hspells
    -- From here on only the size of the index matters, so its digits are put out of sight.
    generalize longIndex = key at hpos
    rintro found (_ | ⟨hitems, hrest⟩)
    obtain rfl := hitems.unique (.entry rfl)
    rcases hrest with _ | ⟨⟨⟩ | ⟨hspells, hitem⟩, _⟩
    have hindex := (List.getElem?_eq_some_iff.1 hitem).1
    exact absurd (hpos _ hspells) (by simpa using hindex)
  · rw [resolve_reference (List.cons_ne_nil _ _) hpoints, hwalk, hlength, Except.map]

end Template

end PagedForm
