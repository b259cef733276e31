import PagedForm.Proofs.Json.RoundTrip
import PagedForm.Proofs.Results

/-!
# What is read from JSON

Whatever is read from a JSON text is a value that JSON holds: an integer is refused when it is too
long, other numbers are rounded, and a repeated key replaces the entry that it repeats. So it can be
written and read again.
-/

namespace PagedForm.Json

/-! ## Numbers -/

/-- A digit counts less than ten. -/
theorem digitsValue_singleton_lt {c : Char} (h : isDigit c = true) : digitsValue [c] < 10 := by
  simp only [isDigit, Bool.and_eq_true, decide_eq_true_eq, Char.le_def, UInt32.le_iff_toNat_le] at h
  have hlast : c.toNat ≤ 57 := h.2
  show 0 * 10 + (c.toNat - 48) < 10
  omega

/-- Digits spell a number below the power of ten that has one digit more. -/
theorem digitsValue_lt {digits : List Char} (h : ∀ c ∈ digits, isDigit c = true) :
    digitsValue digits < 10 ^ digits.length := by
  induction digits with
  | nil => exact Nat.one_pos
  | cons c rest ih =>
      obtain ⟨hc, hrest⟩ := List.forall_mem_cons.1 h
      have hfirst := digitsValue_singleton_lt hc
      have hothers := ih hrest
      rw [← List.singleton_append, digitsValue_append, List.singleton_append, List.length_cons,
        Nat.pow_succ]
      nlinarith

/-- The digits that are split off are digits. -/
theorem isDigit_of_spanDigits {chars digits rest : List Char}
    (h : spanDigits chars = (digits, rest)) : ∀ c ∈ digits, isDigit c = true := by
  cases h
  exact List.all_eq_true.1 List.all_takeWhile

/-- The digits of a whole part are digits. -/
theorem isDigit_of_readWhole {chars whole rest : List Char}
    (h : readWhole chars = some (whole, rest)) : ∀ c ∈ whole, isDigit c = true := by
  unfold readWhole at h
  split at h
  · cases h
    exact List.forall_mem_singleton.2 rfl
  · split at h
    · cases h
    · exact isDigit_of_spanDigits (Option.some.inj h)

/-- A number that is read is one that JSON holds. -/
theorem isJson_of_readNumber {chars rest : List Char} {v : Value}
    (h : readNumber chars = .ok (v, rest)) : v.IsJson := by
  unfold readNumber at h
  dsimp only at h
  split at h
  · cases h
  · next whole after hwhole =>
      split at h
      · split at h
        · cases h
        · next hshort =>
            cases h
            refine .atom ((Nat.length_toDigits_le_iff (by decide) (by decide)).2 ?_)
            have hsize (negative : Bool) :
                (if negative then -(digitsValue whole : Int) else digitsValue whole).natAbs =
                  digitsValue whole := by
              cases negative <;> simp
            rw [hsize]
            exact (digitsValue_lt (isDigit_of_readWhole hwhole)).trans_le
              (Nat.pow_le_pow_right (by decide) (Nat.not_lt.1 hshort))
      · cases h
        exact .atom (Binary64.isRounded_ofDecimal _ _ _)

/-- A bare word or a number that is read is one that JSON holds. -/
theorem isJson_of_readScalar {chars rest : List Char} {v : Value}
    (h : readScalar chars = .ok (v, rest)) : v.IsJson := by
  unfold readScalar at h
  dsimp only at h
  split at h
  · next found hfound =>
      cases h
      obtain ⟨entry, hentry, hword⟩ := List.exists_of_findSome?_eq_some hfound
      obtain ⟨_, _, hvalue⟩ := Option.map_eq_some_iff.1 hword
      rw [← (Prod.mk.inj hvalue).1]
      have hwords : ∀ entry ∈ bareWords, entry.2.IsJson := by
        simp only [bareWords, List.forall_mem_cons]
        exact ⟨.atom trivial, .atom trivial, .atom trivial, .atom trivial, .atom trivial,
          .atom trivial, by rintro _ ⟨⟩⟩
      exact hwords entry hentry
  · exact isJson_of_readNumber h

/-! ## Records -/

variable {acc : List (Atom × Value)}

/-- A value put into a record that JSON holds gives another one. -/
theorem isJson_put {v : Value} (h : (Value.record acc).IsJson) (hv : v.IsJson) (key : String) :
    (Value.record (Value.put (.text key) v acc)).IsJson := by
  obtain ⟨hkeys, hnodup, hvalues⟩ : (∀ entry ∈ acc, ∃ key, entry.1 = .text key) ∧
      (acc.map Prod.fst).Nodup ∧ ∀ entry ∈ acc, entry.2.IsJson := by
    cases h with
    | record hkeys hnodup hvalues => exact ⟨hkeys, hnodup, hvalues⟩
  have hput : ∀ entry ∈ Value.put (.text key) v acc, entry.2.IsJson := by
    intro entry hentry
    rcases Value.mem_put hentry with hold | hnew
    · exact hvalues entry hold
    · rw [hnew]
      exact hv
  by_cases hthere : ∃ entry ∈ acc, entry.1.alike (.text key) = true
  · have hsame := Value.map_fst_put_of_alike hthere v
    refine .record (fun entry hentry => ?_) (hsame ▸ hnodup) hput
    have hold : entry.1 ∈ acc.map Prod.fst := hsame ▸ List.mem_map_of_mem hentry
    obtain ⟨old, hmem, heq⟩ := List.mem_map.1 hold
    rw [← heq]
    exact hkeys old hmem
  · have hnew : ∀ entry ∈ acc, entry.1.alike (.text key) = false := by simpa using hthere
    rw [Value.put_of_new hnew] at hput ⊢
    refine .record ?_ ?_ hput
    · exact List.forall_mem_append.2 ⟨hkeys, List.forall_mem_singleton.2 ⟨key, rfl⟩⟩
    · rw [List.map_append, List.nodup_append]
      refine ⟨hnodup, List.nodup_singleton _, ?_⟩
      rintro _ hold _ hadded rfl
      obtain ⟨entry, hentry, heq⟩ := List.mem_map.1 hold
      have hself : entry.1.alike (.text key) = true := by
        rw [heq, List.mem_singleton.1 hadded]
        exact beq_self_eq_true key
      rw [hnew entry hentry] at hself
      cases hself

/-! ## Values -/

/-- An empty record is one that JSON holds. -/
theorem isJson_record_nil : (Value.record []).IsJson :=
  .record (by rintro _ ⟨⟩) List.nodup_nil (by rintro _ ⟨⟩)

/-- What the three readers give with some fuel is what JSON holds. -/
structure ReadsJson (fuel : Nat) : Prop where
  value : ∀ {chars rest v}, readValue fuel chars = .ok (v, rest) → v.IsJson
  items : ∀ {acc chars rest v}, (∀ item ∈ acc, item.IsJson) →
    readItems fuel acc chars = .ok (v, rest) → v.IsJson
  entries : ∀ {acc chars rest v}, (Value.record acc).IsJson →
    readEntries fuel acc chars = .ok (v, rest) → v.IsJson

variable {fuel : Nat}

/-- A value that is read is one that JSON holds when its parts are. -/
theorem ReadsJson.value_succ (ih : ReadsJson fuel) {chars rest : List Char} {v : Value}
    (h : readValue (fuel + 1) chars = .ok (v, rest)) : v.IsJson := by
  unfold readValue at h
  split at h
  · cases h
  · obtain ⟨⟨s, after⟩, _, hs⟩ := Result.bind_eq_ok.1 h
    cases hs
    exact .atom trivial
  · split at h
    · cases h
      exact .list (by rintro _ ⟨⟩)
    · exact ih.items (by rintro _ ⟨⟩) h
  · split at h
    · cases h
      exact isJson_record_nil
    · exact ih.entries isJson_record_nil h
  · exact isJson_of_readScalar h

/-- A list that is read is one that JSON holds when its items are. -/
theorem ReadsJson.items_succ (ih : ReadsJson fuel) {acc : List Value} {chars rest : List Char}
    {v : Value} (hacc : ∀ item ∈ acc, item.IsJson)
    (h : readItems (fuel + 1) acc chars = .ok (v, rest)) : v.IsJson := by
  unfold readItems at h
  obtain ⟨⟨item, after⟩, hitem, h⟩ := Result.bind_eq_ok.1 h
  have hall : ∀ other ∈ item :: acc, other.IsJson :=
    List.forall_mem_cons.2 ⟨ih.value hitem, hacc⟩
  dsimp only at h
  split at h
  · exact ih.items hall h
  · cases h
    exact .list fun other hother => hall other (List.mem_reverse.1 hother)
  · cases h

/-- A record that is read is one that JSON holds when its values are. -/
theorem ReadsJson.entries_succ (ih : ReadsJson fuel) {acc : List (Atom × Value)}
    {chars rest : List Char} {v : Value} (hacc : (Value.record acc).IsJson)
    (h : readEntries (fuel + 1) acc chars = .ok (v, rest)) : v.IsJson := by
  unfold readEntries at h
  split at h
  · obtain ⟨⟨key, afterKey⟩, _, h⟩ := Result.bind_eq_ok.1 h
    dsimp only at h
    split at h
    · obtain ⟨⟨w, after⟩, hw, h⟩ := Result.bind_eq_ok.1 h
      have hput := isJson_put hacc (ih.value hw) key
      dsimp only at h
      split at h
      · exact ih.entries hput h
      · cases h
        exact hput
      · cases h
    · cases h
  · cases h

/-- What is read with any fuel is what JSON holds. -/
theorem readsJson (fuel : Nat) : ReadsJson fuel := by
  induction fuel with
  | zero => exact ⟨fun h => (by cases h), fun _ h => (by cases h), fun _ h => (by cases h)⟩
  | succ fuel ih => exact ⟨ih.value_succ, ih.items_succ, ih.entries_succ⟩

/-- The value of a JSON text is one that JSON holds. -/
theorem isJson_of_read {text : String} {v : Value} (h : read text = .ok v) : v.IsJson := by
  obtain ⟨⟨found, after⟩, hfound, hend⟩ := Result.bind_eq_ok.1 h
  dsimp only at hend
  split at hend
  · cases hend
    exact (readsJson _).value hfound
  · cases hend

end PagedForm.Json
