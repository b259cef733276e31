import PagedForm.Fault

/-!
# Where operations fail

An operation that is made of others fails where the first of them fails. `Result.FailsOnly` says
with which faults an operation can fail at all, and is carried through such operations.
-/

namespace PagedForm.Result

variable {ε α β : Type} {f : α → Except ε β}

/-- An operation fails only with faults of a kind. -/
def FailsOnly (P : ε → Prop) (result : Except ε α) : Prop :=
  ∀ fault, result = .error fault → P fault

/-- Two operations in a row fail where the first does, or where the second does with its result. -/
theorem bind_eq_error {first : Except ε α} {next : α → Except ε β} {fault : ε} :
    first >>= next = .error fault ↔
      first = .error fault ∨ ∃ a, first = .ok a ∧ next a = .error fault := by
  cases first <;> simp [bind, Except.bind]

/-- What fails only with faults of a kind fails only with faults of a wider kind. -/
theorem FailsOnly.mono {P Q : ε → Prop} {result : Except ε α} (h : FailsOnly P result)
    (hPQ : ∀ fault, P fault → Q fault) : FailsOnly Q result :=
  fun fault hfault => hPQ fault (h fault hfault)

/-- A changed result fails where the result does. -/
theorem map_eq_error {first : Except ε α} {change : α → β} {fault : ε} :
    first.map change = .error fault ↔ first = .error fault := by
  cases first <;> simp [Except.map]

/-- Two operations in a row fail only with faults of a kind when both do. -/
theorem FailsOnly.bind {P : ε → Prop} {first : Except ε α} {next : α → Except ε β}
    (hfirst : FailsOnly P first) (hnext : ∀ a, first = .ok a → FailsOnly P (next a)) :
    FailsOnly P (first >>= next) := by
  intro fault h
  rcases bind_eq_error.1 h with hfault | ⟨a, ha, hfault⟩
  · exact hfirst fault hfault
  · exact hnext a ha fault hfault

/-- A success does not fail. -/
theorem FailsOnly.ok {P : ε → Prop} (a : α) : FailsOnly P (.ok a : Except ε α) :=
  fun _ h => by cases h

/-- Going through a list fails at the first item that fails. -/
theorem mapM_eq_error {items : List α} {fault : ε} :
    items.mapM f = .error fault ↔
      ∃ before item after, items = before ++ item :: after ∧
        (∀ earlier ∈ before, ∃ result, f earlier = .ok result) ∧ f item = .error fault := by
  induction items with
  | nil =>
      rw [List.mapM_nil]
      constructor
      · intro h
        cases h
      · rintro ⟨before, item, after, h, _⟩
        cases before <;> cases h
  | cons item rest ih =>
      rw [List.mapM_cons, bind_eq_error]
      constructor
      · rintro (hitem | ⟨result, hitem, hrest⟩)
        · exact ⟨[], item, rest, rfl, List.forall_mem_nil _, hitem⟩
        · rcases bind_eq_error.1 hrest with hrest | ⟨_, _, hpure⟩
          · obtain ⟨before, failing, after, rfl, hbefore, hfailing⟩ := ih.1 hrest
            exact ⟨item :: before, failing, after, rfl,
              List.forall_mem_cons.2 ⟨⟨result, hitem⟩, hbefore⟩, hfailing⟩
          · cases hpure
      · rintro ⟨before, failing, after, heq, hbefore, hfailing⟩
        cases before with
        | nil =>
            cases heq
            exact .inl hfailing
        | cons first others =>
            cases heq
            obtain ⟨⟨result, hresult⟩, hothers⟩ := List.forall_mem_cons.1 hbefore
            refine .inr ⟨result, hresult, bind_eq_error.2 (.inl ?_)⟩
            exact ih.2 ⟨others, failing, after, rfl, hothers, hfailing⟩

/-- Going through a list fails only with faults of a kind when every item does. -/
theorem FailsOnly.mapM {P : ε → Prop} {items : List α}
    (h : ∀ item ∈ items, FailsOnly P (f item)) : FailsOnly P (items.mapM f) := by
  intro fault hfault
  obtain ⟨before, item, after, rfl, _, hitem⟩ := mapM_eq_error.1 hfault
  exact h item (by simp) fault hitem

end PagedForm.Result
