import PhotoSearch.Calendar.Basic
import PhotoSearch.Text.Digits

/-! Dates of the years 1 to 9999, each of which is a day of the calendar. -/

namespace PhotoSearch

structure Date where
  year : Int
  month : Int
  day : Int
  year_range : 1 ≤ year ∧ year ≤ 9999
  month_range : 1 ≤ month ∧ month ≤ 12
  day_range : 1 ≤ day ∧ day ≤ Calendar.monthLength year month
deriving DecidableEq

namespace Date

def of? (year month day : Int) : Option Date :=
  if h : (1 ≤ year ∧ year ≤ 9999) ∧ (1 ≤ month ∧ month ≤ 12) ∧
      (1 ≤ day ∧ day ≤ Calendar.monthLength year month) then
    some ⟨year, month, day, h.1, h.2.1, h.2.2⟩
  else none

theorem of?_eq_some_iff {year month day : Int} {date : Date} :
    of? year month day = some date ↔
      date.year = year ∧ date.month = month ∧ date.day = day := by
  simp only [of?]
  constructor
  · intro h
    split at h
    · cases h; exact ⟨rfl, rfl, rfl⟩
    · cases h
  · rintro ⟨rfl, rfl, rfl⟩
    rw [dif_pos ⟨date.year_range, date.month_range, date.day_range⟩]

@[simp] theorem of?_self (date : Date) : of? date.year date.month date.day = some date :=
  of?_eq_some_iff.2 ⟨rfl, rfl, rfl⟩

def ordinal (date : Date) : Int := Calendar.ordinal date.year date.month date.day

/-- The date with this number, if its year is one of 1 to 9999. -/
def ofOrdinal? (n : Int) : Option Date :=
  of? (Calendar.ofOrdinal n).1 (Calendar.ofOrdinal n).2.1 (Calendar.ofOrdinal n).2.2

theorem ordinal_of_ofOrdinal? {n : Int} {date : Date} (h : ofOrdinal? n = some date) :
    date.ordinal = n := by
  obtain ⟨hy, hm, hd⟩ := of?_eq_some_iff.1 h
  rw [ordinal, hy, hm, hd, Calendar.ordinal_ofOrdinal]

/-- The first of January 1970, day zero of Unix time. -/
def epoch : Date := ⟨1970, 1, 1, by decide, by decide, by decide⟩

/-- Year, month and day, with hyphens between. -/
def text (date : Date) : String :=
  Text.paddedString 4 date.year ++ "-" ++ Text.paddedString 2 date.month ++ "-" ++
    Text.paddedString 2 date.day

end Date

end PhotoSearch
