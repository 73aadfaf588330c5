import PhotoSearch.Proofs.Calendar.Carrying

/-!
The two ends of the calendar. The lenient mode refuses each typed day that carrying takes out of the
years 1 to 9999. It also refuses a day that carrying takes out and in again: months lead to a month
outside, and days back to a day inside. These are all the days that it refuses.
-/

namespace PhotoSearch

namespace Calendar

/-- The days of the years 1 to 9999 are those with the numbers 1 to 3652059. -/
theorem IsDay.year_range_iff {year month day : Int} (h : IsDay year month day) :
    1 ≤ year ∧ year ≤ 9999 ↔ 1 ≤ ordinal year month day ∧ ordinal year month day ≤ 3652059 := by
  have inYear := h.dayOfYear
  have next := daysBeforeYear_succ year
  have last : daysBeforeYear 10000 = 3652059 := by decide
  simp only [ordinal]
  constructor
  · rintro ⟨from1, upTo9999⟩
    have before := daysBeforeYear_mono from1
    have behind := daysBeforeYear_mono (show year + 1 ≤ 10000 by omega)
    rw [daysBeforeYear_one] at before
    omega
  · rintro ⟨from1, upTo⟩
    constructor
    · refine Decidable.byContradiction fun early => ?_
      have behind := daysBeforeYear_mono (show year + 1 ≤ 1 by omega)
      rw [daysBeforeYear_one] at behind
      omega
    · refine Decidable.byContradiction fun late => ?_
      have before := daysBeforeYear_mono (show 10000 ≤ year by omega)
      omega

end Calendar

namespace TypedDay

/-- The number of the day that is reached by carrying. -/
def number (d : TypedDay) : Int := Calendar.ordinal d.carriedMonth.1 d.carriedMonth.2 d.day

theorem isReal_carried_iff (d : TypedDay) :
    d.carried.IsReal ↔ 1 ≤ d.number ∧ d.number ≤ 3652059 := by
  have stands := d.isDay_carried
  rw [IsReal, and_iff_left stands, stands.year_range_iff, d.numbered_carried.ordinal_eq, number]

/-- The month that months are carried to is one of the years 1 to 9999 exactly if there are neither
too few months in all nor too many. -/
theorem year_monthsCarried_iff (d : TypedDay) :
    1 ≤ d.monthsCarried.year ∧ d.monthsCarried.year ≤ 9999 ↔
      13 ≤ 12 * d.year + d.month ∧ 12 * d.year + d.month ≤ 120000 := by
  rw [monthsCarried_eq]
  simp only [carriedMonth]
  omega

/-- Carrying months leads out of the years 1 to 9999, and carrying days into them again. -/
structure ComesBack (d : TypedDay) : Prop where
  outside : ¬ (1 ≤ d.monthsCarried.year ∧ d.monthsCarried.year ≤ 9999)
  inside : d.carried.IsReal

theorem comesBack_iff (d : TypedDay) : d.ComesBack ↔
    (12 * d.year + d.month ≤ 12 ∨ 120000 < 12 * d.year + d.month) ∧
      1 ≤ d.number ∧ d.number ≤ 3652059 := by
  have beyond : ¬ (13 ≤ 12 * d.year + d.month ∧ 12 * d.year + d.month ≤ 120000) ↔
      12 * d.year + d.month ≤ 12 ∨ 120000 < 12 * d.year + d.month := by omega
  rw [← d.isReal_carried_iff, ← beyond, ← d.year_monthsCarried_iff]
  exact ⟨fun h => ⟨h.outside, h.inside⟩, fun h => ⟨h.1, h.2⟩⟩

theorem resolve_lenient_eq_ok_iff_carried {d : TypedDay} {date : Date} :
    d.resolve .lenient = .ok date ↔ ofDate date = d.carried ∧ ¬ d.ComesBack := by
  rw [resolve_lenient_eq_ok_iff, rolledOver?_eq]
  split
  · rename_i inRange
    have stays : ¬ d.ComesBack := fun back => back.outside inRange
    rw [asTyped?_eq_some_iff, and_iff_left stays]
  · rename_i outside
    simp only [reduceCtorEq, false_iff, not_and, not_not]
    intro same
    exact ⟨outside, isReal_iff_exists_ofDate.2 ⟨date, same⟩⟩

theorem failsOutside_iff_carried {d : TypedDay} :
    d.FailsOutside ↔ ¬ d.carried.IsReal ∨ d.ComesBack := by
  rw [failsOutside_iff, Option.eq_none_iff_forall_ne_some]
  simp only [ne_eq, ← resolve_lenient_eq_ok_iff, resolve_lenient_eq_ok_iff_carried, not_and,
    not_not, isReal_iff_exists_ofDate]
  constructor
  · intro back
    by_cases real : ∃ date, ofDate date = d.carried
    · obtain ⟨date, same⟩ := real
      exact .inr (back date same)
    · exact .inl real
  · rintro (unreal | back) date same
    · exact absurd ⟨date, same⟩ unreal
    · exact back

/-- The lenient mode refuses the typed day exactly if carrying leaves the calendar, and else comes to
the day that carrying ends at. -/
structure RefusesOnlyOutside (d : TypedDay) : Prop where
  refuses : (∃ l : DayLabel, l.day = d ∧
    d.resolve .lenient = .error (.query (.outsideCalendar l))) ↔ ¬ d.carried.IsReal
  comes_to : ∀ date, ofDate date = d.carried → d.resolve .lenient = .ok date

theorem refusesOnlyOutside_iff (d : TypedDay) :
    d.RefusesOnlyOutside ↔ ¬ d.ComesBack ∧ (d.carried.IsReal ∨ d.IsWritable) := by
  constructor
  · intro only
    constructor
    · intro back
      obtain ⟨date, same⟩ := isReal_iff_exists_ofDate.1 back.inside
      exact (resolve_lenient_eq_ok_iff_carried.1 (only.comes_to date same)).2 back
    · by_cases real : d.carried.IsReal
      · exact .inl real
      · obtain ⟨l, rfl, -⟩ := only.refuses.2 real
        exact .inr l.writable
  · rintro ⟨stays, named⟩
    refine ⟨⟨?_, fun unreal => ?_⟩, fun date same => ?_⟩
    · rintro ⟨l, -, failed⟩
      have outside := failsOutside_iff.2 (resolve_lenient_eq_error_iff.1 failed).1
      exact (failsOutside_iff_carried.1 outside).resolve_right stays
    · exact (failsOutside_iff_carried.2 (.inl unreal)).named (named.resolve_left unreal)
    · exact resolve_lenient_eq_ok_iff_carried.2 ⟨same, stays⟩

/-- The lenient mode fails for the typed days that carrying takes out of the calendar, and for those
that come back into it from a month outside; for all others it comes to the day that carrying ends at.
So it refuses exactly what lies outside, unless the day comes back, or is outside with numbers too long
to be written. It comes back if the months are too few in all or too many, and still the day has one of
the numbers of the calendar. -/
theorem lenient_refuses_outside_and_comesBack (d : TypedDay) :
    (d.FailsOutside ↔ ¬ d.carried.IsReal ∨ d.ComesBack) ∧
    (∀ date, d.resolve .lenient = .ok date ↔ ofDate date = d.carried ∧ ¬ d.ComesBack) ∧
    (d.RefusesOnlyOutside ↔ ¬ d.ComesBack ∧ (d.carried.IsReal ∨ d.IsWritable)) ∧
    (d.ComesBack ↔ (12 * d.year + d.month ≤ 12 ∨ 120000 < 12 * d.year + d.month) ∧
      1 ≤ d.number ∧ d.number ≤ 3652059) :=
  ⟨failsOutside_iff_carried, fun _ => resolve_lenient_eq_ok_iff_carried, d.refusesOnlyOutside_iff,
    d.comesBack_iff⟩

/-- The 32nd of December of year 0 is the first day of year 1, and the day before the first of January
of year 10000 is the last day of year 9999. Both are refused. -/
theorem refuses_days_inside :
    ¬ RefusesOnlyOutside ⟨12, 32, 0⟩ ∧ ¬ RefusesOnlyOutside ⟨13, 0, 9999⟩ := by
  simp only [refusesOnlyOutside_iff, comesBack_iff, not_and_or]
  exact ⟨.inl (by decide), .inl (by decide)⟩

end TypedDay

end PhotoSearch
