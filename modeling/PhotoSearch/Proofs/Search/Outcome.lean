import PhotoSearch.Proofs.Query.Resolution
import PhotoSearch.Proofs.Query.Spelling
import PhotoSearch.Search

/-!
The outcome of searching for a text. Words are tokens and typed numbers are short, so a text that is
a query can only fail as a bad range, and each outcome has exactly one of three shapes.
-/

namespace PhotoSearch

/-! ### What texts can hold -/

theorem isBlank_of_isWordChar {c : Char} (h : isWordChar c = true) : Text.isBlank c = false := by
  have range : (48 ≤ c.toNat ∧ c.toNat ≤ 57) ∨ (65 ≤ c.toNat ∧ c.toNat ≤ 90) ∨
      c.toNat = 95 ∨ (97 ≤ c.toNat ∧ c.toNat ≤ 122) := by
    simp only [isWordChar, Char.isAlphanum, Char.isAlpha, Char.isUpper, Char.isLower, Char.isDigit,
      Bool.or_eq_true, Bool.and_eq_true, decide_eq_true_eq, beq_iff_eq, UInt32.le_iff_toNat_le] at h
    rcases h with ((upper | lower) | digit) | rfl
    · exact .inr (.inl upper)
    · exact .inr (.inr (.inr lower))
    · exact .inl digit
    · exact .inr (.inr (.inl rfl))
  rw [← Bool.not_eq_true, Text.isBlank_iff]
  simp only [Text.blankIntervals, List.mem_cons, List.not_mem_nil, or_false, exists_eq_or_imp,
    exists_eq_left]
  omega

theorem IsWord.isToken {s : String} (h : IsWord s.toList) : IsToken s := by
  refine ⟨?_, fun c hc => isBlank_of_isWordChar (h.2 c hc)⟩
  rintro rfl
  exact h.1 rfl

theorem TagFormula.IsPlain.fault? {f : TagFormula} (h : f.IsPlain) : f.fault? = none := by
  rw [TagFormula.fault?, List.findSome?_eq_none_iff]
  intro t ht
  exact (t.fault?_eq_none_iff).2 ⟨(h t ht).key.isToken, (h t ht).value.isToken⟩

theorem DayRange.Spells.isShort {r : DayRange} {s : String} (h : r.Spells s) :
    r.start.IsShort ∧ r.finish.IsShort := by
  obtain ⟨-, first, last, -, hs, hf⟩ := h
  exact ⟨hs.isShort, hf.isShort⟩

theorem DayRange.Spells.not_overflows {r : DayRange} {s : String} (h : r.Spells s)
    (mode : DateMode) : ¬ r.Overflows mode := by
  obtain ⟨hs, hf⟩ := h.isShort
  rintro ⟨-, start | ⟨-, finish⟩⟩
  · exact start hs.fitsWord
  · exact finish hf.fitsWord

theorem DayRange.Spells.not_lacksLabel {r : DayRange} {s : String} (h : r.Spells s) :
    ¬ r.LacksLabel := by
  obtain ⟨hs, hf⟩ := h.isShort
  rintro (⟨-, long⟩ | ⟨-, -, long⟩ | ⟨-, -, -, long⟩)
  · exact long hs.fitsWord.isWritable
  · exact long hf.fitsWord.isWritable
  · exact long ⟨hs.fitsWord.isWritable, hf.fitsWord.isWritable⟩

/-! ### Evaluating what was read -/

theorem TagFormula.evaluate_of_fault?_eq_none {f : TagFormula} (h : f.fault? = none)
    (photos : List Photo) : f.evaluate photos = .ok (photos.filter f.holds) := by
  simp only [evaluate, test, h, Except.map]

/-- Of the queries that texts spell, only a range can fail, and only as a bad range. -/
theorem Query.Spells.error_of_evaluate {q : Query} {s : String} (h : q.Spells s) {mode : DateMode}
    {photos : List Photo} {f : Fault} (failed : q.evaluate mode photos = .error f) :
    ∃ r e, q = .dates r ∧ f = .query e ∧ e.errorClass = .badRange := by
  cases q with
  | dates r =>
    have range := (r.evaluate_overflowsExactly mode photos).otherwise.2
      ⟨h.not_overflows mode, fun long => h.not_lacksLabel long.2⟩
    obtain ⟨e, rfl, badRange⟩ := range f failed
    exact ⟨r, e, rfl, rfl, badRange⟩
  | tags f =>
    rw [tags_evaluate, TagFormula.evaluate_of_fault?_eq_none h.1.fault?] at failed
    cases failed

/-! ### Shapes of outcomes -/

inductive OutcomeShape where
  | found
  | malformed
  | badRange
deriving DecidableEq

namespace Outcome

/-- An outcome without an error has a kind. With one, it has no photos, and it either has no kind and
is malformed, or it is that of a bad range of dates. -/
def HasShape (o : Outcome) : OutcomeShape → Prop
  | .found => o.error = none ∧ o.kind.isSome
  | .malformed => o.kind = none ∧ o.photos = [] ∧
      o.error.map ErrorNote.code = some "malformed_query"
  | .badRange => o.kind = some "date_range" ∧ o.photos = [] ∧
      o.error.map ErrorNote.code = some "invalid_range"

theorem HasShape.existsUnique {o : Outcome} {shape : OutcomeShape} (h : o.HasShape shape) :
    ∃! shape, o.HasShape shape := by
  refine ⟨shape, h, fun other h' => ?_⟩
  cases shape <;> cases other <;> simp_all [HasShape]

theorem hasShape_malformed {e : QueryError} (h : e.errorClass = .malformed) (text : String) :
    HasShape ⟨text, none, [], some (.ofQueryError e)⟩ .malformed := by
  rw [ErrorNote.ofQueryError_of_errorClass h]
  exact ⟨rfl, rfl, rfl⟩

theorem hasShape_badRange {e : QueryError} (h : e.errorClass = .badRange) (text : String) :
    HasShape ⟨text, some "date_range", [], some (.ofQueryError e)⟩ .badRange := by
  rw [ErrorNote.ofQueryError_of_errorClass h]
  exact ⟨rfl, rfl, rfl⟩

end Outcome

/-! ### Errors as they are raised -/

/-- The failure is an error of the query, with this class and this message. -/
def Raises {α : Type} (x : Except Fault α) (raised : Raised) : Prop :=
  ∃ e : QueryError, x = .error (.query e) ∧ Raised.mk e.errorClass e.message = raised

section Raises

variable {α : Type} {e : QueryError} {raised : Raised}

theorem raises_error_iff : Raises (.error (.query e) : Except Fault α) raised ↔
    Raised.mk e.errorClass e.message = raised := by
  simp [Raises]

theorem not_raises_ok (a : α) : ¬ Raises (.ok a) raised := by
  rintro ⟨e, same, -⟩
  cases same

end Raises

/-! ### Searching -/

theorem searchRead_of_evaluate {q : Query} {mode : DateMode} {photos found : List Photo}
    (h : q.evaluate mode photos = .ok found) (text : String) :
    searchRead mode text (.ok q) photos = .ok ⟨text, some q.kind, found, none⟩ := by
  simp only [searchRead, h]

theorem searchRead_of_evaluate_error {q : Query} {mode : DateMode} {photos : List Photo}
    {e : QueryError} (h : q.evaluate mode photos = .error (.query e)) (text : String) :
    searchRead mode text (.ok q) photos =
      .ok ⟨text, some q.kind, [], some (.ofQueryError e)⟩ := by
  simp only [searchRead, h]

/-- All that can come of searching for a text. -/
theorem search_text_cases (mode : DateMode) (s : String) (photos : List Photo) :
    (∃ e, Query.read (.str s) = .error e ∧ e.errorClass = .malformed ∧
      search mode (.str s) photos = .ok ⟨s, none, [], some (.ofQueryError e)⟩) ∨
    (∃ q found, Query.read (.str s) = .ok q ∧ q.evaluate mode photos = .ok found ∧
      search mode (.str s) photos = .ok ⟨s, some q.kind, found, none⟩) ∨
    (∃ r e, Query.read (.str s) = .ok (.dates r) ∧
      (Query.dates r).evaluate mode photos = .error (.query e) ∧ e.errorClass = .badRange ∧
      search mode (.str s) photos = .ok ⟨s, some "date_range", [], some (.ofQueryError e)⟩) := by
  cases hq : Query.read (.str s) with
  | error e =>
    refine .inl ⟨e, rfl, Query.errorClass_of_read hq, ?_⟩
    rw [search, hq, Data.rawText, searchRead]
  | ok q =>
    have spelled := Query.read_str_eq_ok_iff.1 hq
    rw [search, hq, Data.rawText]
    cases he : q.evaluate mode photos with
    | ok found => exact .inr (.inl ⟨q, found, rfl, he, searchRead_of_evaluate he s⟩)
    | error f =>
      obtain ⟨r, e, rfl, rfl, badRange⟩ := spelled.error_of_evaluate he
      exact .inr (.inr ⟨r, e, rfl, he, badRange, searchRead_of_evaluate_error he s⟩)

/-- Searching for a text always comes to an outcome, which has exactly one of the three shapes. A
text that is a formula finds without an error, the numbers typed in a text are short, and evaluating
what a text was read as meets neither a bad term nor an overflow. -/
theorem search_text_has_one_shape (mode : DateMode) (s : String) (photos : List Photo) :
    ∃ o, search mode (.str s) photos = .ok o ∧ (∃! shape, o.HasShape shape) ∧
      (∀ f, Query.read (.str s) = .ok (.tags f) → o.kind = some f.kind ∧ o.error = none) ∧
      (∀ r, Query.read (.str s) = .ok (.dates r) → r.start.IsShort ∧ r.finish.IsShort) ∧
      ∀ q f, Query.read (.str s) = .ok q → q.evaluate mode photos = .error f →
        ∃ r e, q = .dates r ∧ f = .query e ∧ e.errorClass = .badRange := by
  have errors : ∀ q f, Query.read (.str s) = .ok q → q.evaluate mode photos = .error f →
      ∃ r e, q = .dates r ∧ f = .query e ∧ e.errorClass = .badRange := by
    intro q f hq failed
    exact (Query.read_str_eq_ok_iff.1 hq).error_of_evaluate failed
  have short : ∀ r, Query.read (.str s) = .ok (.dates r) → r.start.IsShort ∧ r.finish.IsShort := by
    intro r hr
    exact DayRange.Spells.isShort (Query.read_str_eq_ok_iff.1 hr)
  rcases search_text_cases mode s photos with
    ⟨e, hq, malformed, ho⟩ | ⟨q, found, hq, -, ho⟩ | ⟨r, e, hq, -, badRange, ho⟩
  · exact ⟨_, ho, (Outcome.hasShape_malformed malformed s).existsUnique, by simp [hq], short, errors⟩
  · have shape : Outcome.HasShape ⟨s, some q.kind, found, none⟩ .found := ⟨rfl, rfl⟩
    refine ⟨_, ho, shape.existsUnique, fun f hf => ⟨?_, rfl⟩, short, errors⟩
    rw [hq] at hf
    cases hf
    rfl
  · exact ⟨_, ho, (Outcome.hasShape_badRange badRange s).existsUnique, by simp [hq], short, errors⟩

end PhotoSearch
