import Mathlib.Logic.Function.Basic
import Mathlib.Order.Bounds.Basic
import Mathlib.Data.List.Nodup

/-!
# The first free number

New ids and names are numbered, and the number is found by counting up past those that are used.
`CountsTo` is this search as one number after the other. It ends when finitely many numbers are
used, since each of them is passed once, and it ends at the least number that is free. A search
among as many numbers as could be used finds the same one.
-/

namespace PagedForm

/-- Counting up from a number ends at the first one that is not used. -/
inductive CountsTo (used : Nat → Bool) : Nat → Nat → Prop where
  | stop {start : Nat} : used start = false → CountsTo used start start
  | next {start last : Nat} : used start = true → CountsTo used (start + 1) last →
      CountsTo used start last

variable {used : Nat → Bool} {start last : Nat}

/-- Counting goes up. -/
theorem CountsTo.le (h : CountsTo used start last) : start ≤ last := by
  induction h with
  | stop => exact Nat.le_refl _
  | next _ _ ih => omega

/-- Counting ends at the least free number that is not below the start. -/
theorem CountsTo.isLeast (h : CountsTo used start last) :
    IsLeast {n | start ≤ n ∧ used n = false} last := by
  induction h with
  | stop hfree => exact ⟨⟨Nat.le_refl _, hfree⟩, fun n hn => hn.1⟩
  | @next start last hused hrest ih =>
      refine ⟨⟨by have := hrest.le; omega, ih.1.2⟩, fun n hn => ih.2 ⟨?_, hn.2⟩⟩
      -- The start is used, so a free number from there on is above it.
      have hne : n ≠ start := by
        rintro rfl
        exact Bool.noConfusion (hn.2.symm.trans hused)
      have := hn.1
      omega

/-- A used number is passed once: fewer numbers of a list are left after it. -/
theorem countP_succ_lt {marks : List Nat} (h : start ∈ marks) :
    marks.countP (start + 1 ≤ ·) < marks.countP (start ≤ ·) := by
  induction marks with
  | nil => cases h
  | cons mark rest ih =>
      have hrest : rest.countP (start + 1 ≤ ·) ≤ rest.countP (start ≤ ·) :=
        List.countP_mono_left fun n _ hn => by
          simp only [decide_eq_true_eq] at hn ⊢
          omega
      rcases List.mem_cons.1 h with rfl | h
      · simp only [List.countP_cons, decide_eq_true_eq]
        split <;> split <;> omega
      · have := ih h
        simp only [List.countP_cons, decide_eq_true_eq]
        split <;> split <;> omega

/-- Counting ends when the used numbers are among finitely many, and passes at most all of these. -/
theorem exists_countsTo {marks : List Nat} (h : ∀ n, used n = true → n ∈ marks) (start : Nat) :
    ∃ last, CountsTo used start last ∧ last ≤ start + marks.length := by
  -- What decreases is the count of marks that are still ahead.
  suffices ∃ last, CountsTo used start last ∧ last ≤ start + marks.countP (start ≤ ·) by
    obtain ⟨last, hlast, hle⟩ := this
    exact ⟨last, hlast, by have := marks.countP_le_length (p := (start ≤ ·)); omega⟩
  induction hahead : marks.countP (start ≤ ·) using Nat.strong_induction_on generalizing start with
  | _ ahead ih =>
      subst hahead
      cases hused : used start with
      | false => exact ⟨start, .stop hused, by omega⟩
      | true =>
          have hfewer := countP_succ_lt (h start hused)
          obtain ⟨last, hlast, hle⟩ := ih _ hfewer (start + 1) rfl
          exact ⟨last, .next hused hlast, by omega⟩

/-- The numbers of those labels that are taken are among finitely many. -/
theorem exists_marks {α : Type} {label : Nat → α} (hlabel : Function.Injective label)
    (taken : List α) :
    ∃ marks : List Nat, marks.length = taken.length ∧ ∀ n, label n ∈ taken → n ∈ marks :=
  ⟨taken.map (Function.invFun label), List.length_map _, fun n hn =>
    List.mem_map.2 ⟨label n, hn, Function.leftInverse_invFun hlabel n⟩⟩

/-- The first free number of a range that counting does not leave is the one where it ends. -/
theorem CountsTo.find?_range (h : CountsTo used start last) {bound : Nat}
    (hbound : last < start + bound) :
    ((List.range bound).map (· + start)).find? (fun n => !used n) = some last := by
  have hrange (start bound : Nat) : (List.range (bound + 1)).map (· + start) =
      start :: (List.range bound).map (· + (start + 1)) := by
    rw [List.range_succ_eq_map, List.map_cons, List.map_map, Nat.zero_add]
    exact congrArg _ (List.map_congr_left fun n _ => by show n + 1 + start = _; omega)
  induction h generalizing bound with
  | stop hfree =>
      obtain ⟨rest, rfl⟩ : ∃ rest, bound = rest + 1 := ⟨bound - 1, by omega⟩
      rw [hrange, List.find?_cons_of_pos (by simp [hfree])]
  | next hused hlast ih =>
      have := hlast.le
      obtain ⟨rest, rfl⟩ : ∃ rest, bound = rest + 1 := ⟨bound - 1, by omega⟩
      rw [hrange, List.find?_cons_of_neg (by simp [hused])]
      exact ih (by omega)

end PagedForm
