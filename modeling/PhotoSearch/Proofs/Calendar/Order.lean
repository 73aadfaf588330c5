import Mathlib
import PhotoSearch.Proofs.Calendar.Numbering

/-! Dates in the order of the calendar: by year, then by month, then by day. Their numbers agree. -/

namespace PhotoSearch.Date

def key (d : Date) : Int ×ₗ Int ×ₗ Int := toLex (d.year, toLex (d.month, d.day))

theorem key_injective : Function.Injective key := by
  intro a b h
  cases a; cases b
  simpa [key] using h

instance : LinearOrder Date := LinearOrder.lift' key key_injective

theorem lt_iff {a b : Date} : a < b ↔
    a.year < b.year ∨ a.year = b.year ∧ (a.month < b.month ∨ a.month = b.month ∧ a.day < b.day) := by
  change a.key < b.key ↔ _
  simp only [key, Prod.Lex.toLex_lt_toLex]

theorem ordinal_strictMono : StrictMono ordinal := by
  intro a b h
  have inYear := a.isDay.dayOfYear
  have inYear' := b.isDay.dayOfYear
  simp only [ordinal, Calendar.ordinal]
  rcases lt_iff.1 h with year | ⟨sameYear, month | ⟨sameMonth, day⟩⟩
  · have upto := Calendar.daysBeforeYear_mono (show a.year + 1 ≤ b.year by omega)
    rw [Calendar.daysBeforeYear_succ] at upto
    omega
  · have next := Calendar.daysBeforeMonth_succ a.year a.month_range.1
      (show a.month < 12 by have := b.month_range; omega)
    have upto := Calendar.daysBeforeMonth_mono a.year (show a.month + 1 ≤ b.month by omega)
    have := a.day_range
    have := b.day_range
    rw [← sameYear]
    omega
  · rw [sameYear, sameMonth]
    omega

theorem ordinal_lt_ordinal_iff {a b : Date} : a.ordinal < b.ordinal ↔ a < b :=
  ordinal_strictMono.lt_iff_lt

theorem ordinal_le_ordinal_iff {a b : Date} : a.ordinal ≤ b.ordinal ↔ a ≤ b :=
  ordinal_strictMono.le_iff_le

theorem ordinal_inj {a b : Date} : a.ordinal = b.ordinal ↔ a = b := ordinal_strictMono.injective.eq_iff

end PhotoSearch.Date
