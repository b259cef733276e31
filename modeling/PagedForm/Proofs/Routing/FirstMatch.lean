import PagedForm.Example
import PagedForm.Proofs.Routing.Selection

/-!
# The first match wins

The decision of a routing is a choice inside a choice, the first branch outermost. `Selects` says
what a routing selects without it: the branches are gone through in the order in which they are
written, and the first one whose constant the answer of the driver meets gives the target.
`select_first_match` says that the decision picks just that.
-/

namespace PagedForm

/-! ## Answers and constants -/

/-- An answer to a field meets a constant: the answer to a checkbox is a list that holds the
constant, and any other answer is a text that is the constant. -/
inductive Field.Meets (field : Field) : Value → Value → Prop where
  | held {items : List Value} {constant : Value} :
      field.isCheckbox = true → constant.isIn items = true → field.Meets (.list items) constant
  | equal (s : String) : field.isCheckbox = false → field.Meets (.text s) (.text s)

namespace Routing

/-- The test of a branch holds when the answer of the driver meets the constant. -/
theorem holds_iff_meets {driver : Field} {answers : Answers} {constant : Value} :
    Test.holds ⟨comparatorFor driver, driver.id, constant⟩ answers = true ↔
      driver.Meets (answers.get driver.id) constant := by
  cases hbox : driver.isCheckbox with
  | true =>
      simp only [Test.holds, comparatorFor, hbox, if_true]
      constructor
      · intro h
        split at h
        · next items hitems =>
            rw [hitems]
            exact .held hbox h
        · cases h
      · generalize answers.get driver.id = answer
        rintro (⟨_, hholds⟩ | ⟨s, hother⟩)
        · exact hholds
        · rw [hbox] at hother
          cases hother
  | false =>
      simp only [Test.holds, comparatorFor, hbox, Bool.false_eq_true, if_false]
      constructor
      · intro h
        split at h
        · next s hs =>
            rw [hs, Value.text_same_iff.1 h]
            exact .equal s hbox
        · cases h
      · generalize answers.get driver.id = answer
        rintro (⟨hbox', _⟩ | ⟨s, _⟩)
        · rw [hbox] at hbox'
          cases hbox'
        · exact Value.text_same_iff.2 rfl

/-- A routing is inert among some fields: it has no branches, its field id is empty, or no field has
the id. -/
def IsInert (routing : Routing) (fields : List Field) : Prop :=
  routing.branches = [] ∨ routing.fieldId = .text "" ∨
    ∀ field ∈ fields, routing.fieldId ≠ .text field.id

/-- A routing with branches has as its driver the first field with its field id. -/
structure IsDrivenBy (routing : Routing) (fields : List Field) (driver : Field) : Prop where
  branches : routing.branches ≠ []
  given : driver.id ≠ ""
  named : routing.fieldId = .text driver.id
  first : ∃ before after, fields = before ++ driver :: after ∧
    ∀ field ∈ before, field.id ≠ driver.id

/-- What a routing selects when its branches are gone through in order: the next page when there is
no driver, else the target of the first branch whose constant the answer of the driver meets, and
the default target, or the next page when that is empty, after the last branch. -/
inductive Selects (routing : Option Routing) (fields : List Field) (answers : Answers) :
    Value → Prop where
  | inert : (∀ r ∈ routing, r.IsInert fields) →
      Selects routing fields answers (.text Target.next)
  | branch {r : Routing} {driver : Field} {before after : List Branch} {branch : Branch} :
      routing = some r → r.IsDrivenBy fields driver → r.branches = before ++ branch :: after →
      (∀ earlier ∈ before, ¬ driver.Meets (answers.get driver.id) earlier.value) →
      driver.Meets (answers.get driver.id) branch.value →
      Selects routing fields answers branch.target
  | fallback {r : Routing} {driver : Field} :
      routing = some r → r.IsDrivenBy fields driver →
      (∀ branch ∈ r.branches, ¬ driver.Meets (answers.get driver.id) branch.value) →
      Selects routing fields answers
        (if r.defaultTarget.truthy then r.defaultTarget else .text Target.next)

/-! ## Drivers -/

/-- The driver that is found is the one that the routing is driven by. -/
theorem driverAmong?_eq_some {routing : Routing} {fields : List Field} {driver : Field} :
    routing.driverAmong? fields = some driver ↔ routing.IsDrivenBy fields driver := by
  constructor
  · intro h
    unfold driverAmong? at h
    split at h
    · cases h
    · next hlive =>
        rw [Bool.or_eq_true, not_or, Bool.not_eq_true', Bool.not_eq_false,
          List.isEmpty_iff] at hlive
        obtain ⟨hgiven, hbranches⟩ := hlive
        split at h
        · next id hid =>
            obtain ⟨hdriver, before, after, hfields, hbefore⟩ :=
              List.find?_eq_some_iff_append.1 h
            obtain rfl : driver.id = id := of_decide_eq_true hdriver
            rw [hid, Value.truthy_text, Bool.not_eq_true', ← Bool.not_eq_true,
              String.isEmpty_iff] at hgiven
            exact ⟨hbranches, hgiven, hid, before, after, hfields, by simpa using hbefore⟩
        · cases h
  · rintro ⟨hbranches, hgiven, hnamed, before, after, hfields, hbefore⟩
    have hlive : ¬ (!routing.fieldId.truthy || routing.branches.isEmpty) = true := by
      simp [hnamed, hgiven, hbranches]
    rw [driverAmong?, if_neg hlive, hnamed]
    refine List.find?_eq_some_iff_append.2 ⟨decide_eq_true rfl, before, after, hfields, ?_⟩
    simpa using hbefore

/-- No driver is found exactly when the routing is inert. -/
theorem driverAmong?_eq_none {routing : Routing} {fields : List Field} :
    routing.driverAmong? fields = none ↔ routing.IsInert fields := by
  constructor
  · intro h
    by_cases htext : ∃ id, routing.fieldId = .text id
    · obtain ⟨id, hid⟩ := htext
      unfold driverAmong? at h
      rw [hid] at h
      split at h
      · next hdead =>
          rw [Value.truthy_text, Bool.not_not, Bool.or_eq_true, String.isEmpty_iff,
            List.isEmpty_iff] at hdead
          rcases hdead with rfl | hbranches
          · exact .inr (.inl hid)
          · exact .inl hbranches
      · refine .inr (.inr fun field hfield hnamed => ?_)
        rw [hid] at hnamed
        cases hnamed
        exact List.find?_eq_none.1 h field hfield (decide_eq_true rfl)
    · exact .inr (.inr fun field _ hnamed => htext ⟨field.id, hnamed⟩)
  · intro h
    rw [Option.eq_none_iff_forall_ne_some]
    intro driver hdriver
    obtain ⟨hbranches, hgiven, hnamed, before, after, rfl, _⟩ := driverAmong?_eq_some.1 hdriver
    rcases h with hnone | hempty | hother
    · exact hbranches hnone
    · exact hgiven (by simpa using hnamed.symm.trans hempty)
    · exact hother driver (List.mem_append_right before List.mem_cons_self) hnamed

variable {routing : Option Routing} {fields : List Field} {answers : Answers}

/-- A routing is active with the driver that it is driven by. -/
theorem active?_eq_some_iff {r : Routing} {driver : Field} :
    active? routing fields = some (r, driver) ↔ routing = some r ∧ r.IsDrivenBy fields driver := by
  simp only [active?, Option.bind_eq_some_iff, Option.map_eq_some_iff, driverAmong?_eq_some,
    Prod.mk.injEq]
  constructor
  · rintro ⟨_, hrouting, _, hdriven, rfl, rfl⟩
    exact ⟨hrouting, hdriven⟩
  · rintro ⟨hrouting, hdriven⟩
    exact ⟨r, hrouting, driver, hdriven, rfl, rfl⟩

/-! ## What is selected -/

section

variable {driver : Field} {branches : List Branch}

/-- The first branch whose test holds is the first one whose constant the answer meets. -/
theorem find?_holds_eq_some {branch : Branch} :
    (branches.find? fun branch =>
        Test.holds ⟨comparatorFor driver, driver.id, branch.value⟩ answers) = some branch ↔
      ∃ before after, branches = before ++ branch :: after ∧
        (∀ earlier ∈ before, ¬ driver.Meets (answers.get driver.id) earlier.value) ∧
        driver.Meets (answers.get driver.id) branch.value := by
  simp only [List.find?_eq_some_iff_append, Bool.not_eq_true', ← Bool.not_eq_true,
    holds_iff_meets]
  constructor
  · rintro ⟨hmeets, before, after, heq, hbefore⟩
    exact ⟨before, after, heq, hbefore, hmeets⟩
  · rintro ⟨before, after, heq, hbefore, hmeets⟩
    exact ⟨hmeets, before, after, heq, hbefore⟩

/-- No test holds exactly when the answer meets no constant. -/
theorem find?_holds_eq_none :
    (branches.find? fun branch =>
        Test.holds ⟨comparatorFor driver, driver.id, branch.value⟩ answers) = none ↔
      ∀ branch ∈ branches, ¬ driver.Meets (answers.get driver.id) branch.value := by
  simp only [List.find?_eq_none, holds_iff_meets]

end

/-- With a driver, the target is that of the first branch whose test holds, or the fallback. -/
theorem select_of_isDrivenBy {r : Routing} {driver : Field} (h : r.IsDrivenBy fields driver) :
    select (some r) fields answers =
      .ok (((r.branches.find? fun branch =>
        Test.holds ⟨comparatorFor driver, driver.id, branch.value⟩ answers).map
          Branch.target).getD r.fallback) := by
  rw [select, decision, active?_eq_some_iff.2 ⟨rfl, h⟩]
  exact eval_chain _ _ _ _ _

/-- The target that the order of the branches gives is picked by the decision. -/
theorem Selects.select_eq {target : Value} (h : Selects routing fields answers target) :
    select routing fields answers = .ok target := by
  cases h with
  | inert hinert =>
      refine select_of_no_driver ?_ answers
      cases routing with
      | none => rfl
      | some r =>
          rw [driver?, active?, Option.bind_some, driverAmong?_eq_none.2 (hinert r rfl)]
          rfl
  | branch hrouting hdriven hbranches hbefore hmeets =>
      have hfirst := find?_holds_eq_some.2 ⟨_, _, hbranches, hbefore, hmeets⟩
      rw [hrouting, select_of_isDrivenBy hdriven, hfirst]
      rfl
  | fallback hrouting hdriven hnone =>
      rw [hrouting, select_of_isDrivenBy hdriven, find?_holds_eq_none.2 hnone]
      rfl

/-- The order of the branches gives a target for all answers. -/
theorem exists_selects (routing : Option Routing) (fields : List Field) (answers : Answers) :
    ∃ target, Selects routing fields answers target := by
  cases routing with
  | none => exact ⟨_, .inert fun r hr => by cases hr⟩
  | some r =>
      cases hdriver : r.driverAmong? fields with
      | none =>
          have hinert := driverAmong?_eq_none.1 hdriver
          exact ⟨_, .inert fun other hother => Option.some.inj hother ▸ hinert⟩
      | some driver =>
          have hdriven := driverAmong?_eq_some.1 hdriver
          cases hfirst : r.branches.find? fun branch =>
              Test.holds ⟨comparatorFor driver, driver.id, branch.value⟩ answers with
          | none => exact ⟨_, .fallback rfl hdriven (find?_holds_eq_none.1 hfirst)⟩
          | some branch =>
              obtain ⟨before, after, hbranches, hbefore, hmeets⟩ := find?_holds_eq_some.1 hfirst
              exact ⟨_, .branch rfl hdriven hbranches hbefore hmeets⟩

/-- For every routing, all fields and all answers the order of the branches gives a target, and the
decision of the routing picks this target and no other. -/
theorem select_first_match (routing : Option Routing) (fields : List Field) (answers : Answers) :
    (∃ target, Selects routing fields answers target) ∧
      ∀ target, select routing fields answers = .ok target ↔
        Selects routing fields answers target := by
  obtain ⟨found, hfound⟩ := exists_selects routing fields answers
  refine ⟨⟨found, hfound⟩, fun target => ⟨?_, Selects.select_eq⟩⟩
  intro htarget
  rw [hfound.select_eq] at htarget
  cases htarget
  exact hfound

/-- With two issues among the answers it is the order of the branches that decides, not that of the
answers. -/
example :
    select (some ⟨.text "issuesFound", [⟨.text "Plumbing", .text "Pipes"⟩,
        ⟨.text "Electrical", .text "Panel"⟩], .null⟩) Example.inspection.fields
      [("issuesFound", .texts ["Electrical", "Plumbing"])] = .ok (.text "Pipes") := rfl

end Routing

end PagedForm
