import PagedForm.Example
import PagedForm.Proofs.Diagnosis.Findings

/-!
# Which findings are filed

The mistakes in a page and the ids that it repeats are filed under the label of the page, and a
page with the same label as an earlier one takes over its place. So what is filed under a label are
the findings in the last page with that label in which there are any, and only those come to be
among the warnings. The findings in a page are kept where no later page has both its label and
findings of its own.
-/

namespace PagedForm

/-- Searching from the end finds the last item that passes the test. -/
theorem find?_reverse_eq_some {α : Type} {items : List α} {test : α → Bool} {item : α} :
    items.reverse.find? test = some item ↔
      ∃ index : Nat, items[index]? = some item ∧ test item = true ∧
        ∀ (later : Nat) (other : α), index < later → items[later]? = some other →
          test other = false := by
  rw [List.find?_eq_some_iff_getElem]
  constructor
  · rintro ⟨htest, place, hplace, hitem, hbefore⟩
    rw [List.length_reverse] at hplace
    rw [List.getElem_reverse] at hitem
    refine ⟨items.length - 1 - place, List.getElem?_eq_some_iff.2 ⟨_, hitem⟩, htest, ?_⟩
    intro later other hlater hother
    obtain ⟨hlt, rfl⟩ := List.getElem?_eq_some_iff.1 hother
    have hfailed := hbefore (items.length - 1 - later) (by omega)
    rw [List.getElem_reverse] at hfailed
    simpa [show items.length - 1 - (items.length - 1 - later) = later by omega] using hfailed
  · rintro ⟨index, hindex, htest, hlast⟩
    obtain ⟨hlt, rfl⟩ := List.getElem?_eq_some_iff.1 hindex
    have hplace : items.length - 1 - index < items.reverse.length := by
      rw [List.length_reverse]
      omega
    refine ⟨htest, items.length - 1 - index, hplace, ?_, ?_⟩
    · rw [List.getElem_reverse]
      simp [show items.length - 1 - (items.length - 1 - index) = index by omega]
    · intro place hbefore
      rw [List.getElem_reverse, hlast (items.length - 1 - place) _ (by omega)
        (List.getElem?_eq_getElem _)]
      rfl

/-- A text is repeated when it occurs more than once. -/
theorem mem_repeatedTexts {texts : List String} {text : String} :
    text ∈ repeatedTexts texts ↔ 1 < texts.count text := by
  rw [repeatedTexts, mem_sortedTexts, List.mem_filter, decide_eq_true_iff]
  exact and_iff_right_of_imp fun h => List.count_pos_iff.1 (by omega)

namespace Form

/-- In the pages after a place nothing is found that is filed under the label. -/
def NoneLater (form : Form) (found : Page → Result (List String)) (label : String)
    (index : Nat) : Prop :=
  ∀ later page, index < later → form.pages[later]? = some page → page.label later = label →
    found page = .ok []

/-- These are the findings in the last page with the label in which anything is found. -/
def FoundLast (form : Form) (found : Page → Result (List String)) (label : String)
    (texts : List String) : Prop :=
  ∃ index page, form.pages[index]? = some page ∧ page.label index = label ∧
    found page = .ok texts ∧ texts ≠ [] ∧ form.NoneLater found label index

end Form

/-- The ids that a page repeats, as findings in it. -/
def Page.repeatedIds (page : Page) : Result (List String) :=
  .ok (repeatedTexts page.fieldIds)

namespace PageFindings

variable {form : Form} {settings : Settings} {findings : List PageFindings}

/-- The findings in a page have its label. -/
theorem label_of_ofPage {page : Page} {index : Nat} {finding : PageFindings}
    (h : ofPage settings (page, index) = .ok finding) : finding.label = page.label index := by
  obtain ⟨_, _, _, _, rfl⟩ := ofPage_eq_ok.1 h
  rfl

/-- There are findings in every page when there are findings in the list of pages. -/
theorem exists_at (h : form.pages.zipIdx.mapM (ofPage settings) = .ok findings) {index : Nat}
    {page : Page} (hpage : form.pages[index]? = some page) :
    ∃ finding, ofPage settings (page, index) = .ok finding := by
  have hentry : (page, index) ∈ form.pages.zipIdx := List.mem_zipIdx_iff_getElem?.2 hpage
  obtain ⟨finding, _, hfinding⟩ := Result.exists_mem_of_mapM_eq_ok h hentry
  exact ⟨finding, hfinding⟩

/-- The findings at a place are those in the page at the place. -/
theorem getElem?_eq_some (h : form.pages.zipIdx.mapM (ofPage settings) = .ok findings)
    {index : Nat} {finding : PageFindings} :
    findings[index]? = some finding ↔
      ∃ page, form.pages[index]? = some page ∧ ofPage settings (page, index) = .ok finding := by
  obtain ⟨hlength, hpairs⟩ := List.forall₂_iff_get.1 (Result.mapM_eq_ok.1 h)
  rw [List.length_zipIdx] at hlength
  constructor
  · intro hfinding
    obtain ⟨hlt, rfl⟩ := List.getElem?_eq_some_iff.1 hfinding
    have hpage : index < form.pages.length := by omega
    have hpair := hpairs index (by rwa [List.length_zipIdx]) hlt
    exact ⟨form.pages[index], List.getElem?_eq_getElem hpage, by simpa using hpair⟩
  · rintro ⟨page, hpage, hfound⟩
    obtain ⟨hlt, rfl⟩ := List.getElem?_eq_some_iff.1 hpage
    have hfinding : index < findings.length := by omega
    have hpair := hpairs index (by rwa [List.length_zipIdx]) hfinding
    rw [List.getElem?_eq_getElem hfinding]
    simpa [hfound, eq_comm] using hpair

end PageFindings

namespace Report

variable {form : Form} {settings : Settings} {findings : List PageFindings}

/-- Under a label is filed what the last findings with that label hold, if they hold anything. -/
theorem find?_fileLists (list : PageFindings → List String) (label : String) :
    (fileLists findings list).find? label =
      (findings.reverse.find? fun f => !(list f).isEmpty && f.label = label).map list := by
  rw [fileLists, Table.find?_ofEntries, ← List.map_reverse, Table.find?_map_items,
    ← List.filter_reverse, List.find?_filter]
  simp only [Bool.decide_and, Bool.decide_eq_true]

/-- What is filed under a label is found in the last page with it in which there is anything. -/
theorem find?_fileLists_eq_some {list : PageFindings → List String}
    {found : Page → Result (List String)}
    (hfindings : form.pages.zipIdx.mapM (PageFindings.ofPage settings) = .ok findings)
    (hlist : ∀ page index finding, PageFindings.ofPage settings (page, index) = .ok finding →
      found page = .ok (list finding)) {label : String} {texts : List String} :
    (fileLists findings list).find? label = some texts ↔ form.FoundLast found label texts := by
  rw [find?_fileLists, Option.map_eq_some_iff]
  simp only [find?_reverse_eq_some, PageFindings.getElem?_eq_some hfindings]
  constructor
  · rintro ⟨finding, ⟨index, ⟨page, hpage, hfinding⟩, htest, hlast⟩, rfl⟩
    obtain ⟨hsome, hunder⟩ : list finding ≠ [] ∧ finding.label = label := by simpa using htest
    rw [PageFindings.label_of_ofPage hfinding] at hunder
    refine ⟨index, page, hpage, hunder, hlist page index finding hfinding, hsome, ?_⟩
    intro later other hlater hother hsame
    obtain ⟨next, hnext⟩ := PageFindings.exists_at hfindings hother
    have hfailed := hlast later next hlater ⟨other, hother, hnext⟩
    have hnone : list next = [] := by
      simpa [PageFindings.label_of_ofPage hnext, hsame] using hfailed
    rw [hlist other later next hnext, hnone]
  · rintro ⟨index, page, hpage, hunder, hfound, hsome, hlast⟩
    obtain ⟨finding, hfinding⟩ := PageFindings.exists_at hfindings hpage
    have htexts : list finding = texts :=
      Except.ok.inj ((hlist page index finding hfinding).symm.trans hfound)
    refine ⟨finding, ⟨index, ⟨page, hpage, hfinding⟩, ?_, ?_⟩, htexts⟩
    · simp [htexts, hsome, PageFindings.label_of_ofPage hfinding, hunder]
    · rintro later next hlater ⟨other, hother, hnext⟩
      by_cases hsame : other.label later = label
      · have hnone := hlast later other hlater hother hsame
        rw [hlist other later next hnext] at hnone
        simp [Except.ok.inj hnone]
      · simp [PageFindings.label_of_ofPage hnext, hsame]

variable {report : Report}

/-- A report files the mistakes in the pages and the ids that they repeat, and puts every mistake
that it files among the warnings, with the label before it. -/
theorem filed_of_ofForm (h : ofForm form settings = .ok report) :
    ∃ findings, form.pages.zipIdx.mapM (PageFindings.ofPage settings) = .ok findings ∧
      report.mistakes = fileLists findings PageFindings.mistakes ∧
      report.duplicateIds = fileLists findings PageFindings.duplicateIds ∧
      ∀ entry ∈ report.mistakes, ∀ message ∈ entry.2,
        entry.1 ++ ": " ++ message ∈ report.warnings := by
  by_cases hpages : form.pages = []
  · rw [ofForm_nil hpages] at h
    cases h
    exact ⟨[], by rw [hpages]; rfl, rfl, rfl, fun entry hentry => by cases hentry⟩
  · obtain ⟨_, findings, closing, hfindings, _, rfl⟩ := (ofForm_eq_ok hpages).1 h
    refine ⟨findings, hfindings, rfl, rfl, ?_⟩
    intro entry hentry message hmessage
    have hwarning : entry.1 ++ ": " ++ message ∈ (collect form findings).mistakes.flatMap
        fun entry => entry.2.map fun mistake => entry.1 ++ ": " ++ mistake :=
      List.mem_flatMap.2 ⟨entry, hentry, List.mem_map_of_mem hmessage⟩
    rw [List.mem_eraseDups, List.mem_append]
    refine .inl ?_
    simp only [describe, List.mem_append]
    exact .inl (.inl (.inl (.inl (.inr hwarning))))

/-- A report files the mistakes in the last page with a label in which there are some. -/
theorem find?_mistakes (h : ofForm form settings = .ok report) {label : String}
    {messages : List String} :
    report.mistakes.find? label = some messages ↔
      form.FoundLast (fun page => page.mistakes settings) label messages := by
  obtain ⟨findings, hfindings, hmistakes, _⟩ := filed_of_ofForm h
  rw [hmistakes]
  refine find?_fileLists_eq_some hfindings ?_
  intro page index finding hfinding
  obtain ⟨_, _, _, hpage, rfl⟩ := PageFindings.ofPage_eq_ok.1 hfinding
  exact hpage

/-- A report files the ids that are repeated in the last page with a label in which some are. -/
theorem find?_duplicateIds (h : ofForm form settings = .ok report) {label : String}
    {ids : List String} :
    report.duplicateIds.find? label = some ids ↔ form.FoundLast Page.repeatedIds label ids := by
  obtain ⟨findings, hfindings, _, hids, _⟩ := filed_of_ofForm h
  rw [hids]
  refine find?_fileLists_eq_some hfindings ?_
  intro page index finding hfinding
  obtain ⟨_, _, _, _, rfl⟩ := PageFindings.ofPage_eq_ok.1 hfinding
  rfl

/-- When the names of the pages are texts and the fields can be checked there is a report. What it
files under a label are the mistakes, and the repeated ids, of the last page with that label that
has any. So it keeps the findings in a page if no later page with its label has any: each mistake
is among the warnings, and each repeated id is filed. -/
theorem findings_kept_unless_later (hnames : form.HasTextualNames)
    (hfields : ∀ field ∈ form.fields, field.IsLintable settings) :
    ∃ report, ofForm form settings = .ok report ∧
      (∀ label messages, report.mistakes.find? label = some messages ↔
        form.FoundLast (fun page => page.mistakes settings) label messages) ∧
      (∀ label ids, report.duplicateIds.find? label = some ids ↔
        form.FoundLast Page.repeatedIds label ids) ∧
      ∀ (index : Nat) (page : Page), form.pages[index]? = some page →
        (form.NoneLater (fun page => page.mistakes settings) (page.label index) index →
          ∃ messages, page.mistakes settings = .ok messages ∧
            ∀ message ∈ messages, page.label index ++ ": " ++ message ∈ report.warnings) ∧
        (form.NoneLater Page.repeatedIds (page.label index) index →
          ∀ id, 1 < page.fieldIds.count id →
            ∃ ids, report.duplicateIds.find? (page.label index) = some ids ∧ id ∈ ids) := by
  obtain ⟨report, hreport⟩ := (exists_ofForm hnames).2 hfields
  refine ⟨report, hreport, fun label messages => find?_mistakes hreport,
    fun label ids => find?_duplicateIds hreport, fun index page hpage => ⟨?_, ?_⟩⟩
  · intro hlast
    have hmem := List.mem_of_getElem? hpage
    obtain ⟨messages, hmessages⟩ := Page.exists_mistakes.2 fun field hfield =>
      hfields field (List.mem_flatMap.2 ⟨page, hmem, hfield⟩)
    refine ⟨messages, hmessages, fun message hmessage => ?_⟩
    have hfiled := (find?_mistakes hreport).2
      ⟨index, page, hpage, rfl, hmessages, List.ne_nil_of_mem hmessage, hlast⟩
    obtain ⟨_, _, _, _, hwarned⟩ := filed_of_ofForm hreport
    exact hwarned _ (Table.mem_of_find? hfiled) message hmessage
  · intro hlast id hid
    have hrepeated := mem_repeatedTexts.2 hid
    exact ⟨_, (find?_duplicateIds hreport).2
      ⟨index, page, hpage, rfl, rfl, List.ne_nil_of_mem hrepeated, hlast⟩, hrepeated⟩

/-- A field for text. -/
def textField (id title : String) : Field :=
  Example.field id title (Example.input (.text .null) false)

/-- A page with an untitled field whose id is repeated. -/
def firstSame : Page :=
  Example.page 1 "Same" "" "" [textField "a" "", textField "a" "A"] none

/-- Another page of the same name, with an untitled field and a repeated id of its own. -/
def secondSame : Page :=
  Example.page 2 "Same" "" "" [textField "b" "", textField "c" "C", textField "c" "C"] none

/-- A form with both pages. -/
def sameNames : Form :=
  { Example.form with pages := [firstSame, secondSame] }

/-- The findings in the last page are kept. -/
theorem findings_kept_second_same :
    sameNames.HasTextualNames ∧
      (∀ field ∈ sameNames.fields, field.IsLintable Settings.standard) ∧
      ∃ report, ofForm sameNames Settings.standard = .ok report ∧
        "Same: Field \"b\" needs a title" ∈ report.warnings ∧
        ∃ ids, report.duplicateIds.find? "Same" = some ids ∧ "c" ∈ ids := by
  have hnames : sameNames.HasTextualNames := by
    simp [Form.HasTextualNames, sameNames, firstSame, secondSame, Example.page]
  have hfields : ∀ field ∈ sameNames.fields, field.IsLintable Settings.standard := by
    have htext (id title : String) : (textField id title).IsLintable Settings.standard :=
      ⟨fun _ => ⟨title, rfl⟩, fun spec hspec => by cases hspec⟩
    simp [Form.fields, sameNames, firstSame, secondSame, Example.page, htext]
  have hlast (found : Page → Result (List String)) : sameNames.NoneLater found "Same" 1 := by
    intro later page hlater hpage
    obtain ⟨hlt, _⟩ := List.getElem?_eq_some_iff.1 hpage
    exact absurd hlt (Nat.not_lt.2 hlater)
  obtain ⟨report, hreport, _, _, hkept⟩ := findings_kept_unless_later hnames hfields
  obtain ⟨hmistakes, hids⟩ := hkept 1 secondSame rfl
  obtain ⟨messages, hmessages, hwarned⟩ := hmistakes (hlast _)
  cases hmessages
  exact ⟨hnames, hfields, report, hreport, hwarned _ List.mem_cons_self,
    hids (hlast _) "c" (by decide)⟩

/-- The findings in the first page are lost: its mistake is not among the warnings, and its
repeated id is not filed. -/
theorem findings_lost_first_same :
    firstSame.mistakes Settings.standard = .ok ["Field \"a\" needs a title"] ∧
      1 < firstSame.fieldIds.count "a" ∧
      ∃ report, ofForm sameNames Settings.standard = .ok report ∧
        "Same: Field \"a\" needs a title" ∉ report.warnings ∧
        report.duplicateIds.find? "Same" = some ["c"] := by
  have hlost : (ofForm sameNames Settings.standard).toOption.any (fun report =>
      !report.warnings.contains "Same: Field \"a\" needs a title" &&
        report.duplicateIds.find? "Same" == some ["c"]) = true := by
    decide +kernel
  refine ⟨rfl, by decide, ?_⟩
  cases hreport : ofForm sameNames Settings.standard with
  | error fault =>
      rw [hreport] at hlost
      cases hlost
  | ok report =>
      rw [hreport] at hlost
      simp only [Except.toOption, Option.any_some, Bool.and_eq_true, Bool.not_eq_true',
        List.contains_eq_mem, decide_eq_false_iff_not, beq_iff_eq] at hlost
      exact ⟨report, rfl, hlost⟩

end Report

end PagedForm
