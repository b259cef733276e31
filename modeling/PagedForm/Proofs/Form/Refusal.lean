import PagedForm.Form.Document
import PagedForm.Proofs.Failures
import PagedForm.Proofs.Records

/-!
# How documents are refused

A document that is no form is refused with a fault of the document, whatever stands in it and
wherever, but for one place: a routing is looked through without a check that it is a record.
`Form.refused_as_document_iff` says that this is the only way in which a document can be refused
with another fault, and when it happens.
-/

namespace PagedForm

open Result

/-- A fault of a part that is reported as a fault of the document. -/
def Fault.IsReported (fault : Fault) : Prop :=
  ∃ cause, Form.documentFault fault = .document cause

/-- What is unsupported is not reported as a fault of the document. -/
theorem Fault.not_isReported_unsupported : ¬ Fault.IsReported .unsupported := by
  rintro ⟨cause, hcause⟩
  cases hcause

/-- The saved page can be read but for its routing, which is neither absent nor a record. -/
def Page.HasOddRouting (saved : Value) : Prop :=
  ∃ entries rule page, saved = .record entries ∧
    Value.find? (.text "navigationRule") entries = some rule ∧
    rule.isNull = false ∧ rule.record? = none ∧
    Page.ofDocument (.record (Value.put (.text "navigationRule") .null entries)) = .ok page

/-! ## Values -/

namespace Value

/-- A key that must be there is missing from a document or not. -/
theorem failsOnly_require (value : Value) (key : String) :
    FailsOnly Fault.IsReported (value.require key) := by
  intro fault h
  unfold require at h
  split at h
  · split at h
    · cases h
    · cases h
      exact ⟨_, rfl⟩
  · cases h
    exact ⟨_, rfl⟩

/-- A value is run through or is of the wrong type. -/
theorem failsOnly_elements (value : Value) :
    FailsOnly (fun fault => fault = Fault.mistyped) value.elements := by
  intro fault h
  unfold elements at h
  split at h
  · cases h
  · cases h
  · cases h
  · cases h
    rfl

end Value

/-! ## Fields and branches -/

namespace Field

variable (kind : FieldKind) (attrs : Table Value)

/-- The entry of a field is read or there is a fault of type. -/
theorem failsOnly_entryOf :
    FailsOnly (fun fault => fault = Fault.mistyped) (entryOf kind attrs) := by
  intro fault h
  cases kind with
  | title | readonly | text | textarea => cases h
  | select | radio | checkbox | file => exact Value.failsOnly_elements _ fault (map_eq_error.1 h)

/-- A lifted field fault is a fault of the field. -/
theorem failsOnly_orFault {α : Type} (result : Except FieldFault α) :
    FailsOnly (fun fault => ∃ cause, fault = .field cause) (orFault result) := by
  intro fault h
  unfold orFault at h
  split at h
  · cases h
  · cases h
    exact ⟨_, rfl⟩

/-- A field is built or there is a fault of type or of the field. -/
theorem failsOnly_build :
    FailsOnly (fun fault => fault = Fault.mistyped ∨ ∃ cause, fault = .field cause)
      (build kind attrs) := by
  unfold build
  by_cases hkeys : attrs.keys.any (fun name => !kind.attributes.contains name) = true
  · rw [if_pos hkeys]
    intro fault h
    cases h
    exact .inl rfl
  · rw [if_neg hkeys]
    dsimp only
    by_cases hgiven : (!attrs.has "id") = true
    · rw [if_pos hgiven]
      intro fault h
      cases h
      exact .inl rfl
    · rw [if_neg hgiven]
      refine ((failsOnly_entryOf kind attrs).mono fun _ => .inl).bind fun entry _ => ?_
      refine ((failsOnly_orFault _).mono fun _ => .inr).bind fun id _ => ?_
      exact ((failsOnly_orFault _).mono fun _ => .inr).bind fun body _ => .ok _

/-- A field is defined or there is a fault of the field. -/
theorem failsOnly_define :
    FailsOnly (fun fault => ∃ cause, fault = .field cause) (define kind attrs) := by
  intro fault h
  unfold define at h
  split at h
  · cases h
    exact ⟨_, rfl⟩
  · next hother =>
      rcases failsOnly_build kind attrs fault h with rfl | hcause
      · exact absurd h hother
      · exact hcause

/-- A saved field is read or refused with a fault that is reported. -/
theorem failsOnly_ofDocument (document : Value) :
    FailsOnly Fault.IsReported (ofDocument document) := by
  refine (document.failsOnly_require "type").bind fun named _ => ?_
  cases FieldKind.ofValue? named with
  | none =>
      intro fault h
      cases h
      exact ⟨_, rfl⟩
  | some kind =>
      refine (document.failsOnly_require "id").bind fun id _ => ?_
      intro fault h
      obtain ⟨cause, rfl⟩ := failsOnly_define _ _ fault h
      exact ⟨_, rfl⟩

end Field

/-- A saved branch is read or refused with a fault that is reported. -/
theorem Branch.failsOnly_ofDocument (document : Value) :
    FailsOnly Fault.IsReported (ofDocument document) := by
  refine (document.failsOnly_require "value").bind fun value _ => ?_
  exact (document.failsOnly_require "nextStepName").bind fun target _ => .ok _

/-! ## Routings -/

namespace Routing

/-- A fault of type is reported. -/
theorem isReported_of_mistyped (fault : Fault) (h : fault = .mistyped) : fault.IsReported :=
  h ▸ ⟨_, rfl⟩

/-- What is saved of a routing is read or refused with a fault that is reported, when it is absent
or a record. -/
theorem failsOnly_ofDocument (document : Value)
    (h : document.isNull = true ∨ ∃ entries, document = .record entries) :
    FailsOnly Fault.IsReported (ofDocument document) := by
  unfold ofDocument
  by_cases hnull : document.isNull = true
  · rw [if_pos hnull]
    exact .ok _
  · obtain ⟨entries, rfl⟩ := h.resolve_left hnull
    rw [if_neg hnull]
    refine FailsOnly.bind (.ok _) fun fieldId _ => FailsOnly.bind (.ok _) fun conditions _ => ?_
    refine ((Value.failsOnly_elements _).mono isReported_of_mistyped).bind fun items _ => ?_
    refine FailsOnly.bind (.mapM fun item _ => Branch.failsOnly_ofDocument item) ?_
    intro branches _
    exact FailsOnly.bind (.ok _) fun fallback _ => .ok _

/-- What is saved of a routing and is neither absent nor a record cannot be looked through. -/
theorem ofDocument_odd {document : Value} (hnull : document.isNull = false)
    (hrecord : document.record? = none) : ofDocument document = .error .unsupported := by
  unfold ofDocument
  rw [if_neg (by simp [hnull])]
  cases document with
  | record entries => cases hrecord
  | atom _ | list _ | file _ _ _ _ => rfl

/-- What is saved of a routing is not refused as unsupported unless it is neither absent nor a
record. -/
theorem ofDocument_eq_unsupported {document : Value} :
    ofDocument document = .error .unsupported ↔
      document.isNull = false ∧ document.record? = none := by
  constructor
  · intro h
    cases document with
    | record entries =>
        exact absurd (failsOnly_ofDocument _ (.inr ⟨entries, rfl⟩) _ h)
          Fault.not_isReported_unsupported
    | atom a =>
        cases a with
        | null =>
            exact absurd (failsOnly_ofDocument _ (.inl rfl) _ h) Fault.not_isReported_unsupported
        | bool | int | float | text => exact ⟨rfl, rfl⟩
    | list _ | file _ _ _ _ => exact ⟨rfl, rfl⟩
  · rintro ⟨hnull, hrecord⟩
    exact ofDocument_odd hnull hrecord

end Routing

/-! ## Pages -/

namespace Page

/-- The routing of a page is read last. -/
theorem ofDocument_record (entries : List (Atom × Value)) :
    ofDocument (.record entries) = (do
      let page ← ofDocument (.record (Value.put (.text "navigationRule") .null entries))
      let routing ←
        Routing.ofDocument ((Value.find? (.text "navigationRule") entries).getD .null)
      pure { page with routing := routing }) := by
  have hnone : Routing.ofDocument .null = .ok none := rfl
  simp [ofDocument, Value.require, Value.look, Value.find?_put, bind_assoc, ok_bind, hnone]

/-- A page whose routing is absent or a record is read or refused with a fault that is reported. -/
theorem failsOnly_ofDocument {entries : List (Atom × Value)}
    (h : Routing.ofDocument ((Value.find? (.text "navigationRule") entries).getD .null) ≠
      .error .unsupported) :
    FailsOnly Fault.IsReported (ofDocument (.record entries)) := by
  generalize hrule : (Value.find? (.text "navigationRule") entries).getD .null = rule at h
  have hreported : FailsOnly Fault.IsReported (Routing.ofDocument rule) := by
    refine Routing.failsOnly_ofDocument rule ?_
    cases rule with
    | record entries => exact .inr ⟨entries, rfl⟩
    | atom a =>
        cases a with
        | null => exact .inl rfl
        | bool | int | float | text => exact absurd (Routing.ofDocument_odd rfl rfl) h
    | list _ | file _ _ _ _ => exact absurd (Routing.ofDocument_odd rfl rfl) h
  unfold ofDocument
  refine (Value.failsOnly_require _ "id").bind fun id _ => ?_
  refine FailsOnly.bind (.ok _) fun name _ => FailsOnly.bind (.ok _) fun description _ => ?_
  refine FailsOnly.bind (.ok _) fun saved _ => ?_
  refine ((Value.failsOnly_elements _).mono Routing.isReported_of_mistyped).bind fun items _ => ?_
  refine FailsOnly.bind (.mapM fun item _ => Field.failsOnly_ofDocument item) fun fields _ => ?_
  refine FailsOnly.bind (.ok _) fun actionName _ => FailsOnly.bind (.ok _) fun check _ => ?_
  refine FailsOnly.bind (.ok _) fun found hfound => ?_
  cases hfound
  rw [hrule]
  exact hreported.bind fun routing _ => .ok _

/-- Without its routing a page is read or refused with a fault that is reported. -/
theorem failsOnly_withoutRouting (entries : List (Atom × Value)) :
    FailsOnly Fault.IsReported
      (ofDocument (.record (Value.put (.text "navigationRule") .null entries))) := by
  refine failsOnly_ofDocument ?_
  rw [Value.find?_put, if_pos rfl]
  intro h
  cases h

/-- A saved page is refused as unsupported when its routing is odd and nothing else is wrong. -/
theorem ofDocument_eq_unsupported {saved : Value} :
    ofDocument saved = .error .unsupported ↔ HasOddRouting saved := by
  constructor
  · intro h
    cases saved with
    | atom _ | list _ | file _ _ _ _ => cases h
    | record entries =>
        rw [ofDocument_record] at h
        rcases bind_eq_error.1 h with hrest | ⟨page, hpage, h⟩
        · exact absurd (failsOnly_withoutRouting entries _ hrest)
            Fault.not_isReported_unsupported
        · rcases bind_eq_error.1 h with hrouting | ⟨_, _, hpure⟩
          · obtain ⟨hnull, hrecord⟩ := Routing.ofDocument_eq_unsupported.1 hrouting
            cases hfind : Value.find? (.text "navigationRule") entries with
            | none =>
                rw [hfind] at hnull
                cases hnull
            | some rule =>
                rw [hfind] at hnull hrecord
                exact ⟨entries, rule, page, rfl, hfind, hnull, hrecord, hpage⟩
          · cases hpure
  · rintro ⟨entries, rule, page, rfl, hfind, hnull, hrecord, hpage⟩
    rw [ofDocument_record, hfind]
    exact bind_eq_error.2 (.inr ⟨page, hpage,
      bind_eq_error.2 (.inl (Routing.ofDocument_odd hnull hrecord))⟩)

/-- A saved page is refused as unsupported or with a fault that is reported. -/
theorem isReported_or_unsupported (saved : Value) :
    FailsOnly (fun fault => fault.IsReported ∨ fault = .unsupported) (ofDocument saved) := by
  intro fault h
  cases saved with
  | atom _ | list _ | file _ _ _ _ =>
      cases h
      exact .inl ⟨_, rfl⟩
  | record entries =>
      by_cases hodd : Routing.ofDocument
          ((Value.find? (.text "navigationRule") entries).getD .null) = .error .unsupported
      · rw [ofDocument_record] at h
        rcases bind_eq_error.1 h with hrest | ⟨page, _, h⟩
        · exact .inl (failsOnly_withoutRouting entries fault hrest)
        · rw [hodd] at h
          cases h
          exact .inr rfl
      · exact .inl (failsOnly_ofDocument hodd fault h)

end Page

/-! ## Forms -/

namespace Form

/-- The pages of a document. -/
def savedPages (entries : List (Atom × Value)) : Result (List Value) :=
  ((Value.find? (.text "steps") entries).getD (.list [])).elements

/-- The first page of the document that cannot be read has an odd routing. -/
def HasOddRouting (document : Value) : Prop :=
  ∃ entries before saved after, document = .record entries ∧
    savedPages entries = .ok (before ++ saved :: after) ∧
    (∀ earlier ∈ before, ∃ page, Page.ofDocument earlier = .ok page) ∧ Page.HasOddRouting saved

/-- A record is read as a form when its pages are. -/
theorem ofRecord_eq_error {entries : List (Atom × Value)} {fault : Fault} :
    ofRecord (.record entries) = .error fault ↔
      savedPages entries = .error fault ∨
      ∃ items, savedPages entries = .ok items ∧ items.mapM Page.ofDocument = .error fault := by
  unfold ofRecord
  simp only [Value.look, ok_bind, savedPages]
  rw [bind_eq_error]
  refine or_congr_right (exists_congr fun items => and_congr_right fun _ => ?_)
  rw [bind_eq_error]
  exact or_iff_left fun ⟨_, _, hpure⟩ => by cases hpure

/-- A record is refused as unsupported when the routing of one of its pages is odd. -/
theorem ofRecord_eq_unsupported {entries : List (Atom × Value)} :
    ofRecord (.record entries) = .error .unsupported ↔ HasOddRouting (.record entries) := by
  rw [ofRecord_eq_error]
  constructor
  · rintro (hpages | ⟨items, hitems, hread⟩)
    · cases Value.failsOnly_elements _ _ hpages
    · obtain ⟨before, saved, after, rfl, hbefore, hsaved⟩ := mapM_eq_error.1 hread
      exact ⟨entries, before, saved, after, rfl, hitems, hbefore,
        Page.ofDocument_eq_unsupported.1 hsaved⟩
  · rintro ⟨_, before, saved, after, hrecord, hitems, hbefore, hsaved⟩
    cases hrecord
    exact .inr ⟨_, hitems, mapM_eq_error.2
      ⟨before, saved, after, rfl, hbefore, Page.ofDocument_eq_unsupported.2 hsaved⟩⟩

/-- A record is refused as unsupported or with a fault that is reported. -/
theorem isReported_or_unsupported (entries : List (Atom × Value)) :
    FailsOnly (fun fault => fault.IsReported ∨ fault = .unsupported)
      (ofRecord (.record entries)) := by
  intro fault h
  rcases ofRecord_eq_error.1 h with hpages | ⟨items, _, hread⟩
  · exact .inl (Routing.isReported_of_mistyped fault (Value.failsOnly_elements _ _ hpages))
  · exact FailsOnly.mapM (fun saved _ => Page.isReported_or_unsupported saved) fault hread

/-- A record is read as a form, or refused with the fault of its parts as one of the document. -/
theorem ofDocument_record (entries : List (Atom × Value)) :
    (∃ form, ofRecord (.record entries) = .ok form ∧
      ofDocument (.record entries) = .ok form) ∨
    ∃ fault, ofRecord (.record entries) = .error fault ∧
      ofDocument (.record entries) = .error (documentFault fault) := by
  unfold ofDocument
  dsimp only
  cases ofRecord (.record entries) with
  | ok form => exact .inl ⟨form, rfl, rfl⟩
  | error fault => exact .inr ⟨fault, rfl, rfl⟩

/-- A document is refused with a fault of the document, with one exception: it is refused as
unsupported exactly when the first page that cannot be read could be but for a routing that is
neither absent nor a record. -/
theorem refused_as_document_iff (document : Value) :
    ((∃ form, ofDocument document = .ok form) ∨
      (∃ cause, ofDocument document = .error (.document cause)) ∨
      ofDocument document = .error .unsupported) ∧
    (ofDocument document = .error .unsupported ↔ HasOddRouting document) := by
  cases document with
  | atom _ | list _ | file _ _ _ _ =>
      refine ⟨.inr (.inl ⟨_, rfl⟩), ?_, ?_⟩
      · intro h
        cases h
      · rintro ⟨_, _, _, _, hrecord, _⟩
        cases hrecord
  | record entries =>
      rw [← ofRecord_eq_unsupported]
      rcases ofDocument_record entries with ⟨form, hread, h⟩ | ⟨fault, hread, h⟩
      · rw [hread, h]
        exact ⟨.inl ⟨form, rfl⟩, by simp⟩
      · rw [hread, h]
        rcases isReported_or_unsupported entries fault hread with ⟨cause, hcause⟩ | rfl
        · refine ⟨.inr (.inl ⟨cause, by rw [hcause]⟩), ?_, ?_⟩
          · rw [hcause]
            intro hrefused
            cases hrefused
          · intro hrefused
            cases hrefused
            cases hcause
        · exact ⟨.inr (.inr rfl), Iff.rfl⟩

/-- A document with one page whose routing is a number. -/
def numberedRouting : Value :=
  .fields [("steps", .list [.fields [("id", .text "s"), ("navigationRule", .int 5)]])]

/-- A routing that is a number is not refused with a fault of the document. -/
theorem refused_otherwise_numbered :
    ¬ ((∃ form, ofDocument numberedRouting = .ok form) ∨
      ∃ cause, ofDocument numberedRouting = .error (.document cause)) := by
  have hrefused : ofDocument numberedRouting = .error .unsupported := rfl
  rw [hrefused]
  rintro (⟨form, h⟩ | ⟨cause, h⟩)
  · cases h
  · cases h

end Form

end PagedForm
