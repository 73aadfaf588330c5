/-!
The Gregorian calendar, running on without end in both directions. Days are numbered, day 1 being
the first of January of year 1; year 0 comes before year 1.
-/

namespace PhotoSearch.Calendar

def isLeap (year : Int) : Bool :=
  year % 4 == 0 && (year % 100 != 0 || year % 400 == 0)

theorem isLeap_iff (year : Int) :
    isLeap year = true ↔ year % 4 = 0 ∧ (year % 100 ≠ 0 ∨ year % 400 = 0) := by
  simp [isLeap]

def yearLength (year : Int) : Int := if isLeap year then 366 else 365

/-- The number of days of a month from 1 to 12. -/
def monthLength (year month : Int) : Int :=
  if month = 2 then if isLeap year then 29 else 28
  else if month = 4 ∨ month = 6 ∨ month = 9 ∨ month = 11 then 30
  else 31

theorem monthLength_bounds (year month : Int) :
    28 ≤ monthLength year month ∧ monthLength year month ≤ 31 := by
  simp only [monthLength]; split <;> (try split) <;> omega

/-- The number of days from the first day of year 1 to the first day of a year. -/
def daysBeforeYear (year : Int) : Int :=
  365 * (year - 1) + (year - 1) / 4 - (year - 1) / 100 + (year - 1) / 400

@[simp] theorem daysBeforeYear_one : daysBeforeYear 1 = 0 := by decide

theorem daysBeforeYear_succ (year : Int) :
    daysBeforeYear (year + 1) = daysBeforeYear year + yearLength year := by
  have h := isLeap_iff year
  simp only [daysBeforeYear, yearLength]
  split <;> rename_i hl <;> simp only [hl, true_iff, Bool.false_eq_true, false_iff] at h <;> omega

/-- The number of days of the year before a month from 1 to 12. -/
def daysBeforeMonth (year month : Int) : Int :=
  (367 * month - 362) / 12 - (if month ≤ 2 then 0 else if isLeap year then 1 else 2)

@[simp] theorem daysBeforeMonth_one (year : Int) : daysBeforeMonth year 1 = 0 := by
  simp [daysBeforeMonth]

theorem daysBeforeMonth_succ (year : Int) {month : Int} (h₁ : 1 ≤ month) (h₂ : month < 12) :
    daysBeforeMonth year (month + 1) = daysBeforeMonth year month + monthLength year month := by
  have cases : month = 1 ∨ month = 2 ∨ month = 3 ∨ month = 4 ∨ month = 5 ∨ month = 6 ∨ month = 7 ∨
      month = 8 ∨ month = 9 ∨ month = 10 ∨ month = 11 := by omega
  rcases cases with rfl | rfl | rfl | rfl | rfl | rfl | rfl | rfl | rfl | rfl | rfl <;>
    cases hl : isLeap year <;> simp [daysBeforeMonth, monthLength, hl]

theorem daysBeforeMonth_twelve (year : Int) :
    daysBeforeMonth year 12 + monthLength year 12 = yearLength year := by
  cases hl : isLeap year <;> simp [daysBeforeMonth, monthLength, yearLength, hl]

/-- The number of a day; nothing is asked of its parts. -/
def ordinal (year month day : Int) : Int :=
  daysBeforeYear year + daysBeforeMonth year month + day

/-- A day counted off by whole cycles of 400, 100, 4 and 1 years, from the first of January of
year 1: four counts and the days left over. -/
structure Cycles where
  quadricentennials : Int
  centuries : Int
  quadrennials : Int
  years : Int
  days : Int

def Cycles.ofOrdinal (n : Int) : Cycles :=
  let inCycle := (n - 1) % 146097
  let centuries := min (inCycle / 36524) 3
  let inCentury := inCycle - 36524 * centuries
  let inFour := inCentury % 1461
  let years := min (inFour / 365) 3
  ⟨(n - 1) / 146097, centuries, inCentury / 1461, years, inFour - 365 * years⟩

def Cycles.year (c : Cycles) : Int :=
  400 * c.quadricentennials + 100 * c.centuries + 4 * c.quadrennials + c.years + 1

/-- Each count stays below the next longer cycle, and a last day of 366 is left over only where the
year is the last of four and those four do not end an ordinary century. -/
structure Cycles.Proper (c : Cycles) : Prop where
  centuries : 0 ≤ c.centuries ∧ c.centuries ≤ 3
  quadrennials : 0 ≤ c.quadrennials ∧ c.quadrennials ≤ 24
  years : 0 ≤ c.years ∧ c.years ≤ 3
  days : 0 ≤ c.days ∧ c.days ≤ 365
  leap : c.days = 365 → c.years = 3 ∧ (c.quadrennials = 24 → c.centuries = 3)

theorem Cycles.ofOrdinal_proper (n : Int) : (Cycles.ofOrdinal n).Proper := by
  constructor <;> simp only [Cycles.ofOrdinal] <;> omega

theorem Cycles.ofOrdinal_sum (n : Int) :
    146097 * (Cycles.ofOrdinal n).quadricentennials + 36524 * (Cycles.ofOrdinal n).centuries +
      1461 * (Cycles.ofOrdinal n).quadrennials + 365 * (Cycles.ofOrdinal n).years +
      (Cycles.ofOrdinal n).days = n - 1 := by
  simp only [Cycles.ofOrdinal]; omega

theorem Cycles.Proper.daysBeforeYear_year {c : Cycles} (h : c.Proper) :
    daysBeforeYear c.year = 146097 * c.quadricentennials + 36524 * c.centuries +
      1461 * c.quadrennials + 365 * c.years := by
  have := h.centuries; have := h.quadrennials; have := h.years
  simp only [daysBeforeYear, Cycles.year]; omega

theorem Cycles.Proper.days_lt_yearLength {c : Cycles} (h : c.Proper) :
    c.days < yearLength c.year := by
  have := h.days
  by_cases last : c.days = 365
  · have hq := h.quadrennials
    have hl := h.leap last
    have leap : isLeap c.year = true := by
      rw [isLeap_iff, Cycles.year]; omega
    simp [yearLength, leap, last]
  · simp only [yearLength]; split <;> omega

/-- The year that holds the day with this number. -/
def yearOf (n : Int) : Int := (Cycles.ofOrdinal n).year

theorem daysBeforeYear_yearOf (n : Int) :
    daysBeforeYear (yearOf n) < n ∧ n ≤ daysBeforeYear (yearOf n + 1) := by
  have proper := Cycles.ofOrdinal_proper n
  have sum := Cycles.ofOrdinal_sum n
  have before := proper.daysBeforeYear_year
  have left := proper.days_lt_yearLength
  have days := proper.days
  rw [daysBeforeYear_succ, yearOf]
  omega

/-- The month that holds the day with this number within its year. -/
def monthOf (year dayOfYear : Int) : Int :=
  1 + (List.range 11).countP fun i : Nat => decide (daysBeforeMonth year (i + 2) < dayOfYear)

/-- The year, month and day with this number. -/
def ofOrdinal (n : Int) : Int × Int × Int :=
  let year := yearOf n
  let month := monthOf year (n - daysBeforeYear year)
  (year, month, n - daysBeforeYear year - daysBeforeMonth year month)

/-- Reading a day back from its number loses nothing. -/
theorem ordinal_ofOrdinal (n : Int) :
    ordinal (ofOrdinal n).1 (ofOrdinal n).2.1 (ofOrdinal n).2.2 = n := by
  simp only [ordinal, ofOrdinal]; omega

end PhotoSearch.Calendar
