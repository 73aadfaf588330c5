import PhotoSearch.Calendar.TypedDay
import PhotoSearch.Proofs.Calendar.Numbering

/-!
Typed days that are real, typed days whose numbers are small enough to be held or to be written, and
dates typed as they stand, which are carried to themselves.
-/

namespace PhotoSearch

namespace TypedDay

/-- The typed numbers are those of a day of the calendar, in one of the years 1 to 9999. -/
def IsReal (d : TypedDay) : Prop :=
  (1 ≤ d.year ∧ d.year ≤ 9999) ∧ Calendar.IsDay d.year d.month d.day

theorem isReal_iff_exists_ofDate {d : TypedDay} : d.IsReal ↔ ∃ date, ofDate date = d := by
  constructor
  · rintro ⟨year, day⟩
    exact ⟨⟨d.year, d.month, d.day, year, day.month_range, day.day_range⟩, rfl⟩
  · rintro ⟨date, rfl⟩
    exact ⟨date.year_range, date.isDay⟩

/-- Year, month and day fit a signed word of 32 bits. -/
def FitsWord (d : TypedDay) : Prop :=
  ∀ n ∈ [d.year, d.month, d.day], -2147483648 ≤ n ∧ n < 2147483648

theorem fitsWord_iff (d : TypedDay) : d.FitsWord ↔ (-2147483648 ≤ d.year ∧ d.year < 2147483648) ∧
    (-2147483648 ≤ d.month ∧ d.month < 2147483648) ∧
    -2147483648 ≤ d.day ∧ d.day < 2147483648 := by
  simp [FitsWord]

theorem wordFault?_eq_none_iff_fitsWord (d : TypedDay) : d.wordFault? = none ↔ d.FitsWord := by
  rw [wordFault?_eq_none_iff, fitsWord_iff]
  simp only [WordFault.of?_eq_none_iff, WordFault.wordLimit]

/-- Month and day have at most two digits, and the year at most four. -/
def IsShort (d : TypedDay) : Prop :=
  (0 ≤ d.month ∧ d.month ≤ 99) ∧ (0 ≤ d.day ∧ d.day ≤ 99) ∧ 0 ≤ d.year ∧ d.year ≤ 9999

/-- Numbers of two and four digits are far from the limits of a word. -/
theorem IsShort.fitsWord {d : TypedDay} (h : d.IsShort) : d.FitsWord := by
  obtain ⟨month, day, year⟩ := h
  rw [fitsWord_iff]
  omega

/-- A number of a word has ten digits at most. -/
theorem FitsWord.isWritable {d : TypedDay} (h : d.FitsWord) : d.IsWritable := by
  have few : ∀ n : Int, -2147483648 ≤ n ∧ n < 2147483648 → Text.IsWritable n := by
    intro n range
    have ten : (Text.numeral n.natAbs).length ≤ 10 :=
      (Text.length_numeral_le_iff n.natAbs (by decide)).2 (show n.natAbs < 10000000000 by omega)
    exact Nat.le_trans ten (by decide)
  obtain ⟨year, month, day⟩ := (fitsWord_iff d).1 h
  exact ⟨few _ month, few _ day, few _ year⟩

theorem isShort_ofDate (date : Date) : (ofDate date).IsShort := by
  have year := date.year_range
  have month := date.month_range
  have day := date.day_range
  have long := Calendar.monthLength_bounds date.year date.month
  simp only [IsShort, ofDate]
  omega

theorem rolledOver?_ofDate (date : Date) : (ofDate date).rolledOver? = some date := by
  have carried : (ofDate date).carriedMonth = (date.year, date.month) :=
    carriedMonth_of_month date.month_range
  have long := Calendar.monthLength_bounds date.year date.month
  obtain ⟨first, hf⟩ : ∃ first, Date.of? date.year date.month 1 = some first :=
    ⟨⟨date.year, date.month, 1, date.year_range, date.month_range, by omega⟩,
      Date.of?_eq_some_iff.2 ⟨rfl, rfl, rfl⟩⟩
  have number : first.ordinal + ((ofDate date).day - 1) = date.ordinal := by
    obtain ⟨hy, hm, hd⟩ := Date.of?_eq_some_iff.1 hf
    simp only [Date.ordinal, Calendar.ordinal, hy, hm, hd, ofDate]
    omega
  simp only [rolledOver?, carried, hf, Option.bind_some, number, Date.ofOrdinal?_ordinal]

end TypedDay

/-- The label of a date that is typed as it stands. -/
def DayLabel.ofDate (date : Date) : DayLabel :=
  ⟨TypedDay.ofDate date, (TypedDay.isShort_ofDate date).fitsWord.isWritable⟩

end PhotoSearch
