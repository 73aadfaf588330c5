import PhotoSearch.Proofs.Query.TypedText
import PhotoSearch.Proofs.Search.Outcome

/-!
Ranges of days that are given as text. There are two ways in: the text is read as a range and nothing
else, or as a query of any shape that is then searched for. Both read the same ranges, find the same
photos and fail with the same errors, except that a text of another shape is malformed where only a
range will do.
-/

namespace PhotoSearch

namespace DayRange

/-! ### Reading -/

theorem read_eq_ok_iff_dates {raw : Data} {r : DayRange} :
    read raw = .ok r ↔ Query.read raw = .ok (.dates r) := by
  rw [read_eq_ok_iff, Query.read_eq_ok_iff]
  rfl

theorem read_of_ne_dates {raw : Data} (h : ∀ r, Query.read raw ≠ .ok (.dates r)) :
    read raw = .error (.notDayRange raw) := by
  cases read' : read raw with
  | ok r => exact absurd (read_eq_ok_iff_dates.1 read') (h r)
  | error e =>
    simp only [read] at read'
    split at read'
    · split at read' <;> cases read'
      rfl
    · cases read'
      rfl

section Raw

variable {raw : Data} {r : DayRange} {mode : DateMode} {photos : List Photo}

theorem resolveRaw_of_dates (h : Query.read raw = .ok (.dates r)) :
    resolveRaw raw mode = r.resolve mode := by
  simp only [resolveRaw, read_eq_ok_iff_dates.2 h]

theorem evaluateRaw_of_dates (h : Query.read raw = .ok (.dates r)) :
    evaluateRaw raw mode photos = (Query.dates r).evaluate mode photos := by
  simp only [evaluateRaw, read_eq_ok_iff_dates.2 h, Query.dates_evaluate]

theorem evaluateRaw_of_ne_dates (h : ∀ r, Query.read raw ≠ .ok (.dates r)) :
    evaluateRaw raw mode photos = .error (.query (.notDayRange raw)) := by
  simp only [evaluateRaw, read_of_ne_dates h]

end Raw

/-! ### Evaluating and searching -/

/-- What evaluating a text as a range comes to, told from the outcome of searching for it. -/
structure AgreesWith (direct : Except Fault (List Photo)) (o : Outcome) : Prop where
  found : ∀ photos, direct = .ok photos ↔
    o.error = none ∧ o.kind = some "date_range" ∧ o.photos = photos
  badRange : ∀ message, Raises direct ⟨.badRange, message⟩ ↔ o.error = some ⟨"invalid_range", message⟩
  malformed : (∃ message, Raises direct ⟨.malformed, message⟩) ↔
    o.error.map ErrorNote.code = some "malformed_query" ∨
      o.kind = some "single_tag" ∨ o.kind = some "binary_tag"
  covers : (∃ photos, direct = .ok photos) ∨ (∃ message, Raises direct ⟨.badRange, message⟩) ∨
    ∃ message, Raises direct ⟨.malformed, message⟩

theorem agreesWith_found (text : String) (photos : List Photo) :
    AgreesWith (.ok photos) ⟨text, some "date_range", photos, none⟩ where
  found := by simp
  badRange := by simp [not_raises_ok]
  malformed := by simp [not_raises_ok]
  covers := .inl ⟨photos, rfl⟩

theorem agreesWith_badRange {e : QueryError} (h : e.errorClass = .badRange) (text : String) :
    AgreesWith (.error (.query e)) ⟨text, some "date_range", [], some (.ofQueryError e)⟩ where
  found := by simp
  badRange := by
    simp [raises_error_iff, h, ErrorNote.ofQueryError_of_errorClass h, ErrorClass.code]
  malformed := by
    simp [raises_error_iff, h, ErrorNote.ofQueryError_of_errorClass h, ErrorClass.code]
  covers := .inr (.inl ⟨e.message, raises_error_iff.2 (by rw [h])⟩)

/-- The text is no query, and so no range. The two errors need not have the same message. -/
theorem agreesWith_malformed {d e : QueryError} (hd : d.errorClass = .malformed)
    (he : e.errorClass = .malformed) (text : String) :
    AgreesWith (.error (.query d)) ⟨text, none, [], some (.ofQueryError e)⟩ where
  found := by simp
  badRange := by
    simp [raises_error_iff, hd, ErrorNote.ofQueryError_of_errorClass he, ErrorClass.code]
  malformed := by
    simp [raises_error_iff, hd, ErrorNote.ofQueryError_of_errorClass he, ErrorClass.code]
  covers := .inr (.inr ⟨d.message, raises_error_iff.2 (by rw [hd])⟩)

/-- The text is a query, but a formula. -/
theorem agreesWith_tags {d : QueryError} (hd : d.errorClass = .malformed) (text : String)
    (f : TagFormula) (photos : List Photo) :
    AgreesWith (.error (.query d)) ⟨text, some f.kind, photos, none⟩ where
  found := by cases f <;> simp [TagFormula.kind]
  badRange := by simp [raises_error_iff, hd]
  malformed := by cases f <;> simp [raises_error_iff, hd, TagFormula.kind]
  covers := .inr (.inr ⟨d.message, raises_error_iff.2 (by rw [hd])⟩)

end DayRange

/-- Evaluating a text as a range agrees with searching for it: the same photos are found, a bad range
has the same message, and malformed is what is no query or is a formula; there is no other case. A text
is read as a range either way or neither way, and then the same range is resolved. -/
theorem raw_ranges_agree_with_search (mode : DateMode) (s : String) (photos : List Photo) :
    (∃ o, search mode (.str s) photos = .ok o ∧
        DayRange.AgreesWith (DayRange.evaluateRaw (.str s) mode photos) o) ∧
      (∀ r, DayRange.read (.str s) = .ok r ↔ Query.read (.str s) = .ok (.dates r)) ∧
      ∀ r, Query.read (.str s) = .ok (.dates r) →
        DayRange.resolveRaw (.str s) mode = r.resolve mode := by
  refine ⟨?_, fun r => DayRange.read_eq_ok_iff_dates, fun r => DayRange.resolveRaw_of_dates⟩
  rcases search_text_cases mode s photos with
    ⟨e, hq, malformed, ho⟩ | ⟨q, found, hq, evaluated, ho⟩ | ⟨r, e, hq, failed, badRange, ho⟩
  · refine ⟨_, ho, ?_⟩
    rw [DayRange.evaluateRaw_of_ne_dates (by simp [hq])]
    exact DayRange.agreesWith_malformed rfl malformed s
  · refine ⟨_, ho, ?_⟩
    cases q with
    | dates r =>
      rw [DayRange.evaluateRaw_of_dates hq, evaluated]
      exact DayRange.agreesWith_found s found
    | tags f =>
      rw [DayRange.evaluateRaw_of_ne_dates (by simp [hq])]
      exact DayRange.agreesWith_tags rfl s f found
  · refine ⟨_, ho, ?_⟩
    rw [DayRange.evaluateRaw_of_dates hq, failed]
    exact DayRange.agreesWith_badRange badRange s

end PhotoSearch
