import PhotoSearch.Calendar.Date

/-!
The numbering of days runs through the calendar in order: a day that stands in its month has a number
between those of the year's first and last day, and it is read back from that number.
-/

namespace PhotoSearch

namespace Calendar

/-- A day whose month is one of the twelve and which lies in that month; the year is any. -/
structure IsDay (year month day : Int) : Prop where
  month_range : 1 ≤ month ∧ month ≤ 12
  day_range : 1 ≤ day ∧ day ≤ monthLength year month

theorem daysBeforeYear_mono {a b : Int} (h : a ≤ b) : daysBeforeYear a ≤ daysBeforeYear b := by
  simp only [daysBeforeYear]; omega

theorem daysBeforeMonth_mono (year : Int) {a b : Int} (h : a ≤ b) :
    daysBeforeMonth year a ≤ daysBeforeMonth year b := by
  simp only [daysBeforeMonth]
  cases isLeap year <;> simp only [Bool.false_eq_true, if_true, if_false] <;> omega

theorem daysBeforeMonth_nonneg (year : Int) {month : Int} (h : 1 ≤ month) :
    0 ≤ daysBeforeMonth year month := by
  have first := daysBeforeMonth_mono year h
  rwa [daysBeforeMonth_one] at first

/-- The days of a month end before the next month begins, or with the year. -/
theorem daysBeforeMonth_add_monthLength_le (year : Int) {month : Int}
    (h : 1 ≤ month ∧ month ≤ 12) :
    daysBeforeMonth year month + monthLength year month ≤ yearLength year := by
  rw [← daysBeforeMonth_twelve]
  by_cases last : month = 12
  · subst last
    exact Int.le_refl _
  · have next := daysBeforeMonth_succ year h.1 (show month < 12 by omega)
    have upto := daysBeforeMonth_mono year (show month + 1 ≤ 12 by omega)
    have long := monthLength_bounds year 12
    omega

/-- The year that holds a number is the only one around it. -/
theorem yearOf_eq {n year : Int} (h : daysBeforeYear year < n ∧ n ≤ daysBeforeYear (year + 1)) :
    yearOf n = year := by
  have around := daysBeforeYear_yearOf n
  rcases Int.lt_trichotomy (yearOf n) year with before | same | behind
  · have upto := daysBeforeYear_mono (show yearOf n + 1 ≤ year by omega)
    omega
  · exact same
  · have upto := daysBeforeYear_mono (show year + 1 ≤ yearOf n by omega)
    omega

theorem countP_range_lt (n k : Nat) :
    (List.range n).countP (fun i => decide (i < k)) = min n k := by
  induction n with
  | zero => simp
  | succ n ih =>
    rw [List.range_succ, List.countP_append, ih]
    by_cases below : n < k
    · simp [below]; omega
    · simp [below]; omega

/-- The months that begin before a day of the year are those up to its own. -/
theorem monthOf_eq {year month n : Int} (hm : 1 ≤ month ∧ month ≤ 12)
    (h : daysBeforeMonth year month < n ∧ n ≤ daysBeforeMonth year month + monthLength year month) :
    monthOf year n = month := by
  have begun : ∀ i ∈ List.range 11, (decide (daysBeforeMonth year ((i : Int) + 2) < n) = true ↔
      decide (i < (month - 1).toNat) = true) := by
    intro i hi
    have inYear : i < 11 := List.mem_range.1 hi
    simp only [decide_eq_true_eq]
    constructor
    · intro before
      refine Decidable.byContradiction fun beyond => ?_
      have next := daysBeforeMonth_succ year hm.1 (show month < 12 by omega)
      have upto := daysBeforeMonth_mono year (show month + 1 ≤ (i : Int) + 2 by omega)
      omega
    · intro upTo
      have before := daysBeforeMonth_mono year (show (i : Int) + 2 ≤ month by omega)
      omega
  rw [monthOf, List.countP_congr begun, countP_range_lt]
  omega

theorem IsDay.dayOfYear {year month day : Int} (h : IsDay year month day) :
    1 ≤ daysBeforeMonth year month + day ∧ daysBeforeMonth year month + day ≤ yearLength year := by
  have before := daysBeforeMonth_nonneg year h.month_range.1
  have inYear := daysBeforeMonth_add_monthLength_le year h.month_range
  have := h.day_range
  omega

theorem IsDay.yearOf_ordinal {year month day : Int} (h : IsDay year month day) :
    yearOf (ordinal year month day) = year := by
  apply yearOf_eq
  have inYear := h.dayOfYear
  rw [daysBeforeYear_succ, ordinal]
  omega

/-- A day is read back from its number. -/
theorem IsDay.ofOrdinal_ordinal {year month day : Int} (h : IsDay year month day) :
    ofOrdinal (ordinal year month day) = (year, month, day) := by
  have left : ordinal year month day - daysBeforeYear year = daysBeforeMonth year month + day := by
    simp only [ordinal]; omega
  have inMonth : monthOf year (daysBeforeMonth year month + day) = month := by
    apply monthOf_eq h.month_range
    have := h.day_range
    omega
  have inDays : daysBeforeMonth year month + day - daysBeforeMonth year month = day := by omega
  simp only [ofOrdinal, h.yearOf_ordinal, left, inMonth, inDays]

end Calendar

namespace Date

theorem isDay (d : Date) : Calendar.IsDay d.year d.month d.day := ⟨d.month_range, d.day_range⟩

@[simp] theorem ofOrdinal?_ordinal (d : Date) : ofOrdinal? d.ordinal = some d := by
  simp only [ofOrdinal?, ordinal, d.isDay.ofOrdinal_ordinal, of?_self]

end Date

end PhotoSearch
