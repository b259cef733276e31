import PagedForm.Command.Response
import PagedForm.Proofs.PathLookup

/-!
# Which page a command compiles

A selector is the name of a page or, when no page has it, the number of one. `Form.Selects` says so,
and `Form.select` picks that page and refuses every other selector in words. The digits of a number
are found by one test and read by another, and the two do not agree: a text of digits that are not
all decimal, or that are too many, passes the first and fails the second. Only then the fault is not
one that a command reports by itself.
-/

namespace PagedForm

/-! ## Digits and integers -/

namespace Text

/-- A text of digits that is not read as an integer: some digit has no decimal value, or there are
too many digits. -/
def IsUnreadable (text : String) : Prop :=
  isDigits text = true ∧
    ((∃ c ∈ text.toList, isDecimal c = false) ∨ maxDigits < text.length)

/-- A number in one of some ranges is in none of others that lie apart from them. -/
theorem inRanges_eq_false {ranges others : List (Nat × Nat)}
    (hapart : ∀ range ∈ ranges, ∀ other ∈ others, range.2 < other.1 ∨ other.2 < range.1)
    {code : Nat} (h : inRanges ranges code = true) : inRanges others code = false := by
  obtain ⟨range, hrange, hcode⟩ := List.any_eq_true.1 h
  refine List.any_eq_false.2 fun other hother hsame => ?_
  simp only [Bool.and_eq_true, decide_eq_true_eq] at hcode hsame
  have := hapart range hrange other hother
  omega

/-- The runs of decimal digits. -/
def decimalRanges : List (Nat × Nat) :=
  decimalZeros.map fun first => (first, first + 9)

/-- A decimal digit is in one of the runs. -/
theorem inRanges_of_isDecimal {c : Char} (h : isDecimal c = true) :
    inRanges decimalRanges c.toNat = true := by
  obtain ⟨value, hvalue⟩ := Option.isSome_iff_exists.1 h
  obtain ⟨first, hfirst, _⟩ := Option.map_eq_some_iff.1 hvalue
  have hcode := List.find?_some hfirst
  refine List.any_eq_true.2
    ⟨_, List.mem_map_of_mem (List.mem_of_find?_eq_some hfirst), ?_⟩
  simp only [Bool.and_eq_true, decide_eq_true_eq] at hcode ⊢
  omega

/-- No digit is a blank. -/
theorem isNumeralBlank_of_isDigit {c : Char} (h : isDigit c = true) : isNumeralBlank c = false := by
  have hblank : isBlank c = false := by
    rw [isDigit, Bool.or_eq_true] at h
    rcases h with hdecimal | hother
    · exact inRanges_eq_false (by decide) (inRanges_of_isDecimal hdecimal)
    · exact inRanges_eq_false (by decide) hother
  rw [isNumeralBlank, hblank, Bool.false_and]

/-- No digit is a mark that may stand in an integer. -/
theorem ne_of_isDigit {c mark : Char} (h : isDigit c = true) (hmark : isDigit mark = false) :
    c ≠ mark := by
  rintro rfl
  rw [h] at hmark
  cases hmark

/-- Of digits, the decimal ones at the front are read, and what follows begins with another. -/
theorem readDigits_of_isDigit {chars : List Char} (h : ∀ c ∈ chars, isDigit c = true) :
    ∃ front rest digits, chars = front ++ rest ∧ readDigits false chars = some (digits, rest) ∧
      List.Forall₂ (fun c digit => decimalValue? c = some digit) front digits ∧
      ∀ c ∈ rest.head?, isDecimal c = false := by
  induction chars with
  | nil => exact ⟨[], [], [], rfl, rfl, .nil, by simp⟩
  | cons c rest ih =>
      obtain ⟨hc, hrest⟩ := List.forall_mem_cons.1 h
      cases hvalue : decimalValue? c with
      | some value =>
          obtain ⟨front, after, digits, hchars, hread, hdigits, hafter⟩ := ih hrest
          refine ⟨c :: front, after, value :: digits, congrArg _ hchars, ?_, .cons hvalue hdigits,
            hafter⟩
          simp [readDigits, hvalue, hread]
      | none =>
          have hmark : c ≠ '_' := ne_of_isDigit hc (by decide)
          exact ⟨[], c :: rest, [], rfl, by simp [readDigits, hvalue, hmark], .nil,
            by simp [isDecimal, hvalue]⟩

/-- A text of digits has no blanks and no sign before the digits, so it is an integer when the
digits can be read to the end and are not too many. -/
theorem integer_of_isDigits {text : String} (h : isDigits text = true) :
    ∃ front rest digits, text.toList = front ++ rest ∧
      List.Forall₂ (fun c digit => decimalValue? c = some digit) front digits ∧
      (∀ c ∈ rest.head?, isDecimal c = false) ∧
      integer text =
        if digits.isEmpty then .error .malformed
        else if maxDigits < digits.length then .error (.long digits.length)
        else if rest.all isNumeralBlank then .ok (ofDigits digits)
        else .error .malformed := by
  simp only [isDigits, Bool.and_eq_true, List.all_eq_true] at h
  obtain ⟨hgiven, hdigits⟩ := h
  obtain ⟨front, rest, digits, hchars, hread, hfront, hrest⟩ := readDigits_of_isDigit hdigits
  refine ⟨front, rest, digits, hchars, hfront, hrest, ?_⟩
  cases htext : text.toList with
  | nil => simp_all
  | cons c more =>
      have hc : isDigit c = true := hdigits c (htext ▸ List.mem_cons_self)
      have hminus : c ≠ '-' := ne_of_isDigit hc (by decide)
      have hplus : c ≠ '+' := ne_of_isDigit hc (by decide)
      have hline : c ≠ '_' := ne_of_isDigit hc (by decide)
      rw [htext] at hread
      simp [integer, htext, isNumeralBlank_of_isDigit hc, readSign, hminus, hplus, hline, hread]

/-- A text that spells a number holds decimal digits only. -/
theorem Spells.isDecimal {text : String} {n : Nat} (h : Spells text n) :
    ∀ c ∈ text.toList, isDecimal c = true :=
  isDecimal_of_decimalIndex? (decimalIndex?_eq_some.2 h)

/-- A text that spells a number is made of digits. -/
theorem Spells.isDigits {text : String} {n : Nat} (h : Spells text n) : isDigits text = true := by
  have hdecimal := h.isDecimal
  obtain ⟨digits, hdigits, hne, _⟩ := h
  have hgiven : text ≠ "" := by
    rintro rfl
    exact hne (List.forall₂_nil_left_iff.1 hdigits)
  simp only [Text.isDigits, Bool.and_eq_true, List.all_eq_true]
  exact ⟨by simpa using hgiven, fun c hc => by rw [isDigit, hdecimal c hc, Bool.true_or]⟩

/-- A text spells one number only. -/
theorem Spells.unique {text : String} {n m : Nat} (h : Spells text n) (hother : Spells text m) :
    n = m := by
  rw [← decimalIndex?_eq_some] at h hother
  exact Option.some.inj (h.symm.trans hother)

/-- A text that spells a number in not too many digits is not unreadable. -/
theorem Spells.not_isUnreadable {text : String} {n : Nat} (h : Spells text n)
    (hshort : text.length ≤ maxDigits) : ¬ IsUnreadable text := by
  rintro ⟨_, ⟨c, hc, hnone⟩ | hlong⟩
  · rw [h.isDecimal c hc] at hnone
    cases hnone
  · omega

/-- A text of digits that is not unreadable is read as the integer that it spells. -/
theorem exists_integer_of_isDigits {text : String} (h : isDigits text = true)
    (hread : ¬ IsUnreadable text) : ∃ n : Nat, integer text = .ok n ∧ Spells text n := by
  have hdecimal : ∀ c ∈ text.toList, isDecimal c = true := by
    intro c hc
    rw [← Bool.not_eq_false]
    exact fun hnone => hread ⟨h, .inl ⟨c, hc, hnone⟩⟩
  have hshort : ¬ maxDigits < text.length := fun hlong => hread ⟨h, .inr hlong⟩
  obtain ⟨front, rest, digits, hchars, hdigits, hrest, heq⟩ := integer_of_isDigits h
  obtain rfl : rest = [] := by
    cases rest with
    | nil => rfl
    | cons c more =>
        have hc := hdecimal c (by simp [hchars])
        rw [hrest c rfl] at hc
        cases hc
  rw [List.append_nil] at hchars
  have hlength : text.length = digits.length := by
    rw [← String.length_toList, hchars, hdigits.length_eq]
  have hgiven : digits ≠ [] := by
    rintro rfl
    simp [isDigits, String.length_eq_zero_iff.1 hlength] at h
  refine ⟨ofDigits digits, ?_, digits, hchars ▸ hdigits, hgiven, rfl⟩
  rw [heq, if_neg (by simpa using hgiven), if_neg (hlength ▸ hshort), if_pos (List.all_nil ..)]

/-- An unreadable text of digits is not read as an integer. -/
theorem integer_of_isUnreadable {text : String} (h : IsUnreadable text) :
    ∃ fault, integer text = .error fault := by
  have hdigits := h.1
  obtain ⟨front, rest, digits, hchars, hfront, hrest, heq⟩ := integer_of_isDigits hdigits
  rw [heq]
  split
  · exact ⟨_, rfl⟩
  · split
    · exact ⟨_, rfl⟩
    · next hgiven hshort =>
        -- Not all digits were read, and the one that stopped the reading is no blank.
        cases rest with
        | nil =>
            rw [List.append_nil] at hchars
            have hspells : Spells text (ofDigits digits) :=
              ⟨digits, hchars ▸ hfront, by simpa using hgiven, rfl⟩
            have hlength : text.length = digits.length := by
              rw [← String.length_toList, hchars, hfront.length_eq]
            exact absurd h (hspells.not_isUnreadable (by omega))
        | cons c more =>
            have hc : isDigit c = true := by
              simp only [isDigits, Bool.and_eq_true, List.all_eq_true] at hdigits
              exact hdigits.2 c (by simp [hchars])
            have hblank : (c :: more).all isNumeralBlank = false := by
              rw [List.all_cons, isNumeralBlank_of_isDigit hc, Bool.false_and]
            rw [hblank]
            exact ⟨_, rfl⟩

end Text

/-! ## Pages -/

namespace Form

/-- The page that a selector means: the first page with this name or, when no page has the name, the
page whose number the selector spells. Pages are counted from zero. -/
inductive Selects (form : Form) (selector : String) : Page → Prop where
  | named {before after : List Page} {page : Page} : form.pages = before ++ page :: after →
      page.name = .text selector → (∀ other ∈ before, other.name ≠ .text selector) →
      Selects form selector page
  | numbered {number : Nat} {page : Page} :
      (∀ other ∈ form.pages, other.name ≠ .text selector) → Text.Spells selector number →
      form.pages[number]? = some page → Selects form selector page

/-- No page has the selector as its name, and it is a text of digits that is not read as a
number. -/
def IsMisread (form : Form) (selector : String) : Prop :=
  (∀ page ∈ form.pages, page.name ≠ .text selector) ∧ Text.IsUnreadable selector

variable {form : Form} {selector : String} {page other : Page}

/-- A page is found by a name when it is the first that has it. -/
theorem page?_eq_some : form.page? (.text selector) = some page ↔
    ∃ before after, form.pages = before ++ page :: after ∧ page.name = .text selector ∧
      ∀ other ∈ before, other.name ≠ .text selector := by
  rw [page?, List.find?_eq_some_iff_append, Value.same_text_iff]
  simp only [Bool.not_eq_true', ← Bool.not_eq_true, Value.same_text_iff]
  constructor
  · rintro ⟨hname, before, after, hpages, hbefore⟩
    exact ⟨before, after, hpages, hname, hbefore⟩
  · rintro ⟨before, after, hpages, hname, hbefore⟩
    exact ⟨hname, before, after, hpages, hbefore⟩

/-- No page is found by a name that none has. -/
theorem page?_eq_none : form.page? (.text selector) = none ↔
    ∀ page ∈ form.pages, page.name ≠ .text selector := by
  simp only [page?, List.find?_eq_none, Value.same_text_iff, ne_eq]

/-- The name of a page means the page that is found by it. -/
theorem selects_of_named (hfound : form.page? (.text selector) = some other) :
    form.Selects selector page ↔ page = other := by
  constructor
  · rintro (⟨hpages, hname, hbefore⟩ | ⟨hnone, _, _⟩)
    · have hpage := page?_eq_some.2 ⟨_, _, hpages, hname, hbefore⟩
      exact Option.some.inj (hpage.symm.trans hfound)
    · cases (page?_eq_none.2 hnone).symm.trans hfound
  · rintro rfl
    obtain ⟨before, after, hpages, hname, hbefore⟩ := page?_eq_some.1 hfound
    exact .named hpages hname hbefore

/-- Any other selector means the page whose number it spells. -/
theorem selects_of_unnamed (hnone : form.page? (.text selector) = none) :
    form.Selects selector page ↔
      ∃ number, Text.Spells selector number ∧ form.pages[number]? = some page := by
  constructor
  · rintro (⟨hpages, hname, hbefore⟩ | ⟨_, hspells, hpage⟩)
    · cases (page?_eq_some.2 ⟨_, _, hpages, hname, hbefore⟩).symm.trans hnone
    · exact ⟨_, hspells, hpage⟩
  · rintro ⟨number, hspells, hpage⟩
    exact .numbered (page?_eq_none.1 hnone) hspells hpage

/-- A selector that is the name of a page picks the first page with it. -/
theorem select_of_page? (h : form.page? (.text selector) = some page) :
    form.select (some selector) = .ok page := by
  simp only [select, h]

/-- Any other selector picks by a number. -/
theorem select_of_unnamed (h : form.page? (.text selector) = none) :
    form.select (some selector) = form.pageNumbered? selector >>= fun found =>
      match found with
      | some page => .ok page
      | none => .error (.selection (.unknown selector)) := by
  simp only [select, h]
  exact bind_congr fun found => by cases found <;> rfl

/-- A misread selector is a fault of reading its number. -/
theorem select_of_isMisread (h : form.IsMisread selector) :
    ∃ cause, form.select (some selector) = .error (.value cause) := by
  obtain ⟨hnone, hread⟩ := h
  have hfault : ∃ cause, form.pageNumbered? selector = .error (.value cause) := by
    obtain ⟨fault, hfault⟩ := Text.integer_of_isUnreadable hread
    rw [pageNumbered?, if_pos hread.1, Value.wholeNumber, hfault]
    cases fault with
    | malformed => exact ⟨_, rfl⟩
    | long => exact ⟨_, rfl⟩
  obtain ⟨cause, hcause⟩ := hfault
  exact ⟨cause, by rw [select_of_unnamed (page?_eq_none.2 hnone), hcause]; rfl⟩

/-- A selector that is not misread is read as the number that it spells, if it spells one. -/
theorem pageNumbered?_of_not_isMisread (hnone : form.page? (.text selector) = none)
    (h : ¬ form.IsMisread selector) :
    ∃ found, form.pageNumbered? selector = .ok found ∧
      ∀ page, found = some page ↔ form.Selects selector page := by
  by_cases hdigits : Text.isDigits selector = true
  · obtain ⟨number, hinteger, hspells⟩ :=
      Text.exists_integer_of_isDigits hdigits fun hread => h ⟨page?_eq_none.1 hnone, hread⟩
    refine ⟨form.pages[number]?, ?_, fun page => ?_⟩
    · simp [pageNumbered?, hdigits, Value.wholeNumber, hinteger, Except.map]
    · rw [selects_of_unnamed hnone]
      refine ⟨fun hpage => ⟨number, hspells, hpage⟩, ?_⟩
      rintro ⟨again, hagain, hpage⟩
      rwa [hspells.unique hagain]
  · refine ⟨none, if_neg hdigits, fun page => ?_⟩
    rw [selects_of_unnamed hnone]
    refine ⟨fun hsome => (by cases hsome), ?_⟩
    rintro ⟨_, hspells, _⟩
    exact absurd hspells.isDigits hdigits

/-- A selector that is not misread picks the page that it means. -/
theorem Selects.select_eq (h : ¬ form.IsMisread selector) (hpage : form.Selects selector page) :
    form.select (some selector) = .ok page := by
  cases hnamed : form.page? (.text selector) with
  | some found =>
      rw [(selects_of_named hnamed).1 hpage]
      exact select_of_page? hnamed
  | none =>
      obtain ⟨found, hfound, hselects⟩ := pageNumbered?_of_not_isMisread hnamed h
      rw [select_of_unnamed hnamed, hfound, (hselects page).2 hpage]
      rfl

/-- A selector that is not misread and means no page is refused. -/
theorem select_of_not_selects (h : ¬ form.IsMisread selector)
    (hpage : ∀ page, ¬ form.Selects selector page) :
    form.select (some selector) = .error (.selection (.unknown selector)) := by
  have hnamed : form.page? (.text selector) = none :=
    Option.eq_none_iff_forall_ne_some.2 fun page hfound =>
      hpage page ((selects_of_named hfound).2 rfl)
  obtain ⟨found, hfound, hselects⟩ := pageNumbered?_of_not_isMisread hnamed h
  have hnone : found = none :=
    Option.eq_none_iff_forall_ne_some.2 fun page hsome => hpage page ((hselects page).1 hsome)
  rw [select_of_unnamed hnamed, hfound, hnone]
  rfl

end Form

/-! ## Commands -/

namespace Command

/-- A command finds its settings, noting these lines on the way, and the form in the file that it
names. -/
structure Invocation.Finds (invocation : Invocation) (yaml : Yaml.Reader String Value)
    (surroundings : Surroundings) (settings : Settings) (log : List LogLine) (form : Form) :
    Prop where
  settings : invocation.findSettings yaml surroundings = .ok (settings, log)
  name : FileName.check invocation.form = .ok ()
  form : ∃ content, surroundings.open? invocation.form = some content ∧
    Form.loadWith yaml invocation.form content = .ok form

variable {invocation : Invocation} {yaml : Yaml.Reader String Value} {surroundings : Surroundings}
  {settings : Settings} {log : List LogLine} {form : Form}

/-- What a command answers when it finds settings and form is what its task makes of them. -/
theorem Invocation.Finds.run_eq (h : invocation.Finds yaml surroundings settings log form) :
    invocation.runWith yaml surroundings =
      report log (invocation.task.perform form settings surroundings.now log) := by
  obtain ⟨content, hcontent, hform⟩ := h.form
  simp only [runWith, h.settings, Task.performOn, h.name, Result.ok_bind, hcontent, hform]

/-- A command that picks no page to compile answers with the fault, or fails with it. -/
theorem Invocation.Finds.run_of_select (h : invocation.Finds yaml surroundings settings log form)
    {selector : Option String} (htask : invocation.task = .compile selector) {fault : Fault}
    (hselect : form.select selector = .error fault) :
    invocation.runWith yaml surroundings = report log (.error fault) := by
  rw [h.run_eq, htask, Task.perform, hselect]
  rfl

end Command

namespace Form

/-- A selector picks the page that it means, the first one with the name before the one with the
number. When it means no page it is refused, and the command that it was given to answers with
status two and a line in the log, however YAML is read. The one exception is a selector that is no
name and is misread: it is a fault of reading a number, and the command fails with it instead of
answering. -/
theorem selects_unless_misread (form : Form) (selector : String) :
    ((∃ cause, form.select (some selector) = .error (.value cause)) ↔ form.IsMisread selector) ∧
      (¬ form.IsMisread selector →
        (∀ page, form.Selects selector page → form.select (some selector) = .ok page) ∧
        ((∀ page, ¬ form.Selects selector page) →
          form.select (some selector) = .error (.selection (.unknown selector)))) ∧
      ∀ (invocation : Command.Invocation) (yaml : Yaml.Reader String Value)
        (surroundings : Command.Surroundings) (settings : Settings) (log : List LogLine),
        invocation.task = .compile (some selector) →
        invocation.Finds yaml surroundings settings log form →
        (form.IsMisread selector →
          ∃ cause, invocation.runWith yaml surroundings = .error (.value cause)) ∧
        (¬ form.IsMisread selector → (∀ page, ¬ form.Selects selector page) →
          ∃ response, invocation.runWith yaml surroundings = .ok response ∧ response.status = 2 ∧
            response.log = log ++
              [.error "formflow.cli" ("No step named or numbered " ++ Text.inspect selector)]) := by
  refine ⟨⟨?_, select_of_isMisread⟩,
    fun h => ⟨fun page hpage => hpage.select_eq h, select_of_not_selects h⟩,
    fun invocation yaml surroundings settings log htask hfinds => ⟨?_, ?_⟩⟩
  · rintro ⟨cause, hcause⟩
    by_contra h
    -- A selector that is not misread picks a page or is refused, and neither is such a fault.
    by_cases hpage : ∃ page, form.Selects selector page
    · obtain ⟨page, hpage⟩ := hpage
      rw [hpage.select_eq h] at hcause
      cases hcause
    · rw [select_of_not_selects h (not_exists.1 hpage)] at hcause
      cases hcause
  · intro h
    obtain ⟨cause, hcause⟩ := select_of_isMisread h
    exact ⟨cause, hfinds.run_of_select htask hcause⟩
  · intro h hpage
    exact ⟨_, hfinds.run_of_select htask (select_of_not_selects h hpage), rfl, rfl⟩

/-- A form with one page, as a file holds it. -/
def startFile : String :=
  "steps:\n- id: s1\n  name: Start\n"

/-- The surroundings of a command that are this file and no settings. -/
def startSurroundings : Command.Surroundings where
  open? name := if name = "form.yaml" then some startFile else none
  usualSettings := none
  now := ⟨2024, 1, 2, 3, 4, 5, 0, some 0⟩

/-- The command that compiles a page of the form in the file. -/
def startCommand (selector : String) : Command.Invocation :=
  ⟨none, false, "form.yaml", .compile (some selector)⟩

/-- The command finds a form with one page, which has its name from the file. -/
theorem exists_finds_start : ∃ form page, form.pages = [page] ∧
    (∀ selector, selector ≠ "Start" → ∀ other ∈ form.pages, other.name ≠ .text selector) ∧
    ∀ selector,
      (startCommand selector).Finds Yaml.reader startSurroundings .standard [] form := by
  obtain ⟨form, hform, htest⟩ : ∃ form, Form.load "form.yaml" startFile = .ok form ∧
      (form.pages.length == 1 && form.pages.all fun page => page.name.isText "Start") = true :=
    Result.exists_eq_ok_of_any (by decide +kernel)
  simp only [Bool.and_eq_true, beq_iff_eq, List.all_eq_true] at htest
  obtain ⟨page, hpages⟩ := List.length_eq_one_iff.1 htest.1
  refine ⟨form, page, hpages, fun selector hselector other hother hname => ?_, fun selector =>
    ⟨rfl, FileName.check_eq_ok_iff.2 (by simp [startCommand]), startFile, rfl, hform⟩⟩
  have hstart := Value.same_text_iff.1 (htest.2 other hother)
  exact hselector (Value.text_injective (hname.symm.trans hstart))

/-- The page is picked by its number. No page is picked by the next number, and the command says
so. -/
theorem selects_unless_misread_start :
    ∃ form page, ¬ form.IsMisread "0" ∧ form.Selects "0" page ∧ form.select (some "0") = .ok page ∧
      ¬ form.IsMisread "1" ∧ (∀ page, ¬ form.Selects "1" page) ∧
      (startCommand "1").Finds Yaml.reader startSurroundings .standard [] form ∧
      ∃ response, (startCommand "1").run startSurroundings = .ok response ∧ response.status = 2 ∧
        response.log = [.error "formflow.cli" "No step named or numbered '1'"] := by
  obtain ⟨form, page, hpages, hunnamed, hfinds⟩ := exists_finds_start
  have hzero : Text.Spells "0" 0 := ⟨[0], .cons rfl .nil, by decide, rfl⟩
  have hone : Text.Spells "1" 1 := ⟨[1], .cons rfl .nil, by decide, rfl⟩
  have hshort : 1 ≤ Text.maxDigits := by simp [Text.maxDigits]
  have hfirst : ¬ form.IsMisread "0" := fun h => hzero.not_isUnreadable hshort h.2
  have hsecond : ¬ form.IsMisread "1" := fun h => hone.not_isUnreadable hshort h.2
  have hpage : form.Selects "0" page :=
    .numbered (hunnamed "0" (by decide)) hzero (by simp [hpages])
  have hnone : ∀ page, ¬ form.Selects "1" page := by
    intro other
    rw [selects_of_unnamed (page?_eq_none.2 (hunnamed "1" (by decide)))]
    rintro ⟨number, hspells, hother⟩
    rw [hspells.unique hone, hpages] at hother
    cases hother
  obtain ⟨_, hselect, _⟩ := selects_unless_misread form "0"
  obtain ⟨_, _, hcommand⟩ := selects_unless_misread form "1"
  obtain ⟨_, hanswer⟩ := hcommand _ _ _ _ _ rfl (hfinds "1")
  obtain ⟨response, hrun, hstatus, hlog⟩ := hanswer hsecond hnone
  exact ⟨form, page, hfirst, hpage, (hselect hfirst).1 page hpage, hsecond, hnone, hfinds "1",
    response, hrun, hstatus, hlog⟩

/-- A raised two is a digit and no decimal one. As a selector it means no page, and the command to
compile it fails instead of saying so. -/
theorem raised_digit_not_refused :
    (Command.Invocation.ofArguments ["compile", "form.yaml", "--step", "²"]).toOption =
        some (startCommand "²") ∧
      ∃ form, (∀ page, ¬ form.Selects "²" page) ∧
        (startCommand "²").Finds Yaml.reader startSurroundings .standard [] form ∧
        (startCommand "²").run startSurroundings = .error (.value (.badNumeral "²")) := by
  obtain ⟨form, _, _, hunnamed, hfinds⟩ := exists_finds_start
  have hnone : form.page? (.text "²") = none := page?_eq_none.2 (hunnamed "²" (by decide))
  refine ⟨by decide +kernel, form, fun page => ?_, hfinds "²", ?_⟩
  · rw [selects_of_unnamed hnone]
    rintro ⟨_, hspells, _⟩
    exact absurd (hspells.isDecimal '²' (by decide)) (by decide)
  · have hselect : form.select (some "²") = .error (.value (.badNumeral "²")) := by
      rw [select_of_unnamed hnone, pageNumbered?, if_pos (by decide)]
      rfl
    exact (hfinds "²").run_of_select rfl hselect

end Form

end PagedForm
