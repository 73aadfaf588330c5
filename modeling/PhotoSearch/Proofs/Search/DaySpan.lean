import PhotoSearch.Proofs.Search.Outcome

/-!
Searching for the days from one date to another, typed out. Both modes find the photos whose wall
clock shows one of those days, and refuse dates in the wrong order.
-/

namespace PhotoSearch

namespace DayRange

/-- The text of two dates, each as it is typed, with a hyphen between. -/
def datesText (first last : Date) : String :=
  typedText (TypedDay.ofDate first) (TypedDay.ofDate last)

/-- The range that the text of two dates is read as. -/
def ofDates (first last : Date) : DayRange :=
  ⟨datesText first last, TypedDay.ofDate first, TypedDay.ofDate last⟩

theorem spells_datesText (first last : Date) : (ofDates first last).Spells (datesText first last) :=
  spells_typedText (TypedDay.isShort_ofDate first) (TypedDay.isShort_ofDate last)

example : datesText ⟨4, 2, 29, by decide, by decide, by decide⟩ Date.epoch =
    "02/29/0004-01/01/1970" := by decide

theorem read_datesText (first last : Date) :
    Query.read (.str (datesText first last)) = .ok (.dates (ofDates first last)) :=
  Query.read_str_eq_ok_iff.2 (spells_datesText first last)

theorem naming_reversal_ofDates (first last : Date) : .naming (ofDates first last).reversal =
    Fault.query (.reversed (DayLabel.ofDate first) (DayLabel.ofDate last)) :=
  Fault.naming_eq_query_iff.2 (reversal_eq_ok_iff.2 ⟨_, _, rfl, rfl, rfl⟩)

theorem resolve_ofDates (first last : Date) (mode : DateMode) : (ofDates first last).resolve mode =
    if last < first then
      .error (.query (.reversed (DayLabel.ofDate first) (DayLabel.ofDate last)))
    else .ok ⟨first, last⟩ := by
  rw [resolve_eq_bind, naming_reversal_ofDates]
  simp only [ofDates, TypedDay.resolve_ofDate, Except.bind]

theorem evaluate_ofDates_of_lt {first last : Date} (h : last < first) (mode : DateMode)
    (photos : List Photo) : (ofDates first last).evaluate mode photos =
      .error (.query (.reversed (DayLabel.ofDate first) (DayLabel.ofDate last))) := by
  rw [evaluate_eq_map, resolve_ofDates, if_pos h, Except.map]

theorem evaluate_ofDates_of_le {first last : Date} (h : first ≤ last) (mode : DateMode)
    (photos : List Photo) : (ofDates first last).evaluate mode photos =
      .ok (photos.filter fun p => decide (p.timestamp.OnDays first last)) := by
  have shown : ∀ p : Photo, (⟨first, last⟩ : Span).contains p.timestamp =
      decide (p.timestamp.OnDays first last) := by
    intro p
    rw [Bool.eq_iff_iff, decide_eq_true_eq]
    exact Span.contains_iff_onDays ⟨first, last⟩ p.timestamp
  rw [evaluate_eq_map, resolve_ofDates, if_neg (not_lt.2 h), Except.map]
  simp only [shown]

end DayRange

theorem search_datesText_of_lt {first last : Date} (h : last < first) (mode : DateMode)
    (photos : List Photo) : search mode (.str (DayRange.datesText first last)) photos = .ok
      ⟨DayRange.datesText first last, some "date_range", [],
        some (.ofQueryError (.reversed (DayLabel.ofDate first) (DayLabel.ofDate last)))⟩ := by
  have reversed := DayRange.evaluate_ofDates_of_lt h mode photos
  rw [← Query.dates_evaluate] at reversed
  rw [search, DayRange.read_datesText, searchRead_of_evaluate_error reversed]
  rfl

theorem search_datesText_of_le {first last : Date} (h : first ≤ last) (mode : DateMode)
    (photos : List Photo) : search mode (.str (DayRange.datesText first last)) photos = .ok
      ⟨DayRange.datesText first last, some "date_range",
        photos.filter fun p => decide (p.timestamp.OnDays first last), none⟩ := by
  have found := DayRange.evaluate_ofDates_of_le h mode photos
  rw [← Query.dates_evaluate] at found
  rw [search, DayRange.read_datesText, searchRead_of_evaluate found]
  rfl

/-- Searching for the text of two dates, in either mode: dates in the wrong order are a bad range,
and all others find, in their order, the photos whose wall clock shows one of the days from the
first to the last, but on the last no time after 23:59:59. A single day is never in the wrong
order. -/
theorem search_datesText (mode : DateMode) (first last : Date) (photos : List Photo) :
    (search mode (.str (DayRange.datesText first last)) photos = .ok
      (if last < first then
        ⟨DayRange.datesText first last, some "date_range", [],
          some ⟨"invalid_range", "Start date " ++ (TypedDay.ofDate first).text ++
            " is after end date " ++ (TypedDay.ofDate last).text⟩⟩
      else
        ⟨DayRange.datesText first last, some "date_range",
          photos.filter fun p => decide (p.timestamp.OnDays first last), none⟩)) ∧
      search mode (.str (DayRange.datesText first first)) photos = .ok
        ⟨DayRange.datesText first first, some "date_range",
          photos.filter fun p => decide (p.timestamp.OnDays first first), none⟩ := by
  refine ⟨?_, search_datesText_of_le (le_refl first) mode photos⟩
  by_cases reversed : last < first
  · rw [if_pos reversed, search_datesText_of_lt reversed]
    rfl
  · rw [if_neg reversed, search_datesText_of_le (not_lt.1 reversed)]

end PhotoSearch
