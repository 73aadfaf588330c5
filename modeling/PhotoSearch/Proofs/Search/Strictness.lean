import PhotoSearch.Proofs.Search.Finding

/-!
The two modes compared. The strict mode accepts the typed days that carrying leaves alone, which are
the real ones; a search that succeeds in it has the same outcome in the lenient mode, and the two
differ only where a day that was typed is not real.
-/

namespace PhotoSearch

namespace TypedDay

/-- The strict mode comes to a date exactly if carrying comes to it too and leaves what was typed as
it is. -/
theorem resolve_strict_eq_ok_iff_lenient {d : TypedDay} {date : Date} :
    d.resolve .strict = .ok date ↔ d.resolve .lenient = .ok date ∧ ofDate date = d := by
  rw [resolve_strict_eq_ok_iff]
  constructor
  · rintro rfl
    exact ⟨resolve_ofDate date .lenient, rfl⟩
  · exact fun h => h.2

example : (⟨2, 30, 2024⟩ : TypedDay).rolledOver?.map ofDate = some ⟨3, 1, 2024⟩ := by decide

theorem IsReal.resolve_eq {d : TypedDay} (h : d.IsReal) (mode mode' : DateMode) :
    d.resolve mode = d.resolve mode' := by
  obtain ⟨date, rfl⟩ := isReal_iff_exists_ofDate.1 h
  rw [resolve_ofDate, resolve_ofDate]

theorem isReal_of_resolve_strict {d : TypedDay} {date : Date} (h : d.resolve .strict = .ok date) :
    d.IsReal :=
  isReal_iff_exists_ofDate.2 ⟨date, resolve_strict_eq_ok_iff.1 h⟩

end TypedDay

namespace DayRange

/-- Both days of the range are real. -/
def IsReal (r : DayRange) : Prop := r.start.IsReal ∧ r.finish.IsReal

theorem IsReal.resolve_eq {r : DayRange} (h : r.IsReal) (mode mode' : DateMode) :
    r.resolve mode = r.resolve mode' := by
  rw [resolve_eq_bind, resolve_eq_bind, h.1.resolve_eq mode mode', h.2.resolve_eq mode mode']

theorem isReal_of_resolve_strict {r : DayRange} {span : Span} (h : r.resolve .strict = .ok span) :
    r.IsReal := by
  obtain ⟨start, finish, -⟩ := resolve_eq_ok_iff.1 h
  exact ⟨TypedDay.isReal_of_resolve_strict start, TypedDay.isReal_of_resolve_strict finish⟩

end DayRange

namespace Query

/-- A range of real days, or no range at all. -/
def IsReal : Query → Prop
  | dates r => r.IsReal
  | tags _ => True

theorem IsReal.evaluate_eq {q : Query} (h : q.IsReal) (mode mode' : DateMode)
    (photos : List Photo) : q.evaluate mode photos = q.evaluate mode' photos := by
  cases q with
  | dates r =>
    have same : r.resolve mode = r.resolve mode' := DayRange.IsReal.resolve_eq h mode mode'
    rw [dates_evaluate, dates_evaluate, DayRange.evaluate_eq_map, DayRange.evaluate_eq_map, same]
  | tags f => rw [tags_evaluate, tags_evaluate]

/-- What the strict mode can evaluate is real. -/
theorem isReal_of_evaluate_strict {q : Query} {photos found : List Photo}
    (h : q.evaluate .strict photos = .ok found) : q.IsReal := by
  cases q with
  | dates r =>
    rw [dates_evaluate, DayRange.evaluate_eq_map] at h
    cases resolved : r.resolve .strict with
    | error f => rw [resolved] at h; cases h
    | ok span => exact DayRange.isReal_of_resolve_strict resolved
  | tags f => trivial

end Query

/-- The mode matters to a search only where a day that was typed is not real. -/
theorem search_eq_of_isReal {raw : Data} (h : ∀ q, Query.read raw = .ok q → q.IsReal)
    (mode mode' : DateMode) (photos : List Photo) :
    search mode raw photos = search mode' raw photos := by
  simp only [search, searchRead]
  cases hq : Query.read raw with
  | error e => rfl
  | ok q => simp only [(h q hq).evaluate_eq mode mode' photos]

theorem isReal_of_search_strict {raw : Data} {photos : List Photo} {o : Outcome}
    (h : search .strict raw photos = .ok o) (succeeds : o.error = none) {q : Query}
    (hq : Query.read raw = .ok q) : q.IsReal := by
  rw [search, hq] at h
  cases he : q.evaluate .strict photos with
  | ok found => exact Query.isReal_of_evaluate_strict he
  | error f =>
    cases f with
    | query e =>
      rw [searchRead_of_evaluate_error he] at h
      cases h
      cases succeeds
    | overflow o => simp only [searchRead, he] at h; cases h

/-- Where the strict mode fails and the lenient mode does not, the text is a range that is not real,
and the failure is that of a bad range. -/
theorem badRange_of_search_strict {s : String} {photos : List Photo} {strict lenient : Outcome}
    (hs : search .strict (.str s) photos = .ok strict)
    (hl : search .lenient (.str s) photos = .ok lenient) (fails : strict.error ≠ none)
    (succeeds : lenient.error = none) :
    strict.error.map ErrorNote.code = some "invalid_range" ∧
      ∃ r, Query.read (.str s) = .ok (.dates r) ∧ ¬ r.IsReal := by
  have differ : strict ≠ lenient := fun same => fails (same ▸ succeeds)
  rcases search_text_cases .strict s photos with
    ⟨e, hq, -, -⟩ | ⟨q, found, -, -, ho⟩ | ⟨r, e, hq, -, badRange, ho⟩
  · -- a text that is no query fails in both modes alike
    have real : ∀ q, Query.read (.str s) = .ok q → q.IsReal := by simp [hq]
    have same := search_eq_of_isReal real .strict .lenient photos
    rw [hs, hl] at same
    exact absurd (Except.ok.inj same) differ
  · rw [hs] at ho
    cases ho
    exact absurd rfl fails
  · have code := (Outcome.hasShape_badRange badRange s).2.2
    rw [hs] at ho
    cases ho
    refine ⟨code, r, hq, fun bothReal => differ ?_⟩
    have real : ∀ q, Query.read (.str s) = .ok q → q.IsReal := by
      intro q hq'
      cases hq.symm.trans hq'
      exact bothReal
    have same := search_eq_of_isReal real .strict .lenient photos
    rw [hs, hl] at same
    exact Except.ok.inj same

/-- A typed day comes to a date in the strict mode exactly if it comes to that date in the lenient
mode and was typed as it stands. So searching for a text without an error in the strict mode has the
same outcome in the lenient mode; the outcomes are the same, errors included, unless the text is a
range with a day that is not real; and only of such a range can the strict mode say that it is bad
while the lenient mode succeeds. -/
theorem strict_refines_lenient :
    (∀ (d : TypedDay) (date : Date),
      d.resolve .strict = .ok date ↔ d.resolve .lenient = .ok date ∧ TypedDay.ofDate date = d) ∧
    ∀ (s : String) (photos : List Photo), ∃ strict lenient : Outcome,
      search .strict (.str s) photos = .ok strict ∧
      search .lenient (.str s) photos = .ok lenient ∧
      (strict.error = none → lenient = strict) ∧
      ((∀ r, Query.read (.str s) = .ok (.dates r) → r.start.IsReal ∧ r.finish.IsReal) →
        lenient = strict) ∧
      (strict.error ≠ none → lenient.error = none →
        strict.error.map ErrorNote.code = some "invalid_range" ∧
          ∃ r, Query.read (.str s) = .ok (.dates r) ∧ ¬ (r.start.IsReal ∧ r.finish.IsReal)) := by
  refine ⟨fun d date => TypedDay.resolve_strict_eq_ok_iff_lenient, fun s photos => ?_⟩
  obtain ⟨strict, hs⟩ := exists_search_text .strict s photos
  obtain ⟨lenient, hl⟩ := exists_search_text .lenient s photos
  have same_of_real : (∀ q, Query.read (.str s) = .ok q → q.IsReal) → lenient = strict := by
    intro real
    have same := search_eq_of_isReal real .lenient .strict photos
    rw [hs, hl] at same
    exact Except.ok.inj same
  refine ⟨strict, lenient, hs, hl, ?_, ?_, badRange_of_search_strict hs hl⟩
  · intro succeeds
    exact same_of_real fun q hq => isReal_of_search_strict hs succeeds hq
  · intro real
    apply same_of_real
    intro q hq
    cases q with
    | dates r => exact real r hq
    | tags f => trivial

end PhotoSearch
