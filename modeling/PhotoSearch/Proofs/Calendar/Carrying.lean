import PhotoSearch.Proofs.Query.Resolution

/-!
Carrying one unit at a time: months into years, then days into months, each in a loop of its own.
Every step keeps the number of the day, so the loops end at the day that is otherwise reached by one
division and one addition.
-/

namespace PhotoSearch

/-- While the guard holds, the body is done once more, and the measure gets smaller each time. -/
structure Loop (α : Type) where
  guard : α → Bool
  body : α → α
  measure : α → Nat
  decreases : ∀ a, guard a = true → measure (body a) < measure a

namespace Loop

variable {α : Type}

def run (l : Loop α) (a : α) : α :=
  if l.guard a then l.run (l.body a) else a
termination_by l.measure a
decreasing_by exact l.decreases a ‹_›

/-- What holds at first and is kept by the body holds in the end. -/
theorem run_keeps (l : Loop α) {P : α → Prop}
    (step : ∀ a, l.guard a = true → P a → P (l.body a)) {a : α} (h : P a) : P (l.run a) := by
  induction a using run.induct l with
  | case1 a guarded ih =>
    rw [run, if_pos guarded]
    exact ih (step a guarded h)
  | case2 a done =>
    rw [run, if_neg done]
    exact h

/-- What the body does not change the loop does not change. -/
theorem apply_run {β : Type} (l : Loop α) (f : α → β)
    (step : ∀ a, l.guard a = true → f (l.body a) = f a) (a : α) : f (l.run a) = f a :=
  l.run_keeps (P := fun b => f b = f a) (fun b guarded same => (step b guarded).trans same) rfl

theorem guard_run (l : Loop α) (a : α) : l.guard (l.run a) = false := by
  induction a using run.induct l with
  | case1 a guarded ih =>
    rw [run, if_pos guarded]
    exact ih
  | case2 a done =>
    rw [run, if_neg done]
    simpa using done

end Loop

namespace Calendar

/-- The year and the month after a month of a year. -/
def monthAfter (year month : Int) : Int × Int :=
  if month = 12 then (year + 1, 1) else (year, month + 1)

/-- The year and the month before a month of a year. -/
def monthBefore (year month : Int) : Int × Int :=
  if month = 1 then (year - 1, 12) else (year, month - 1)

variable {year month : Int}

theorem monthAfter_range (h : 1 ≤ month ∧ month ≤ 12) :
    1 ≤ (monthAfter year month).2 ∧ (monthAfter year month).2 ≤ 12 := by
  simp only [monthAfter]
  split <;> simp only <;> omega

theorem monthBefore_range (h : 1 ≤ month ∧ month ≤ 12) :
    1 ≤ (monthBefore year month).2 ∧ (monthBefore year month).2 ≤ 12 := by
  simp only [monthBefore]
  split <;> simp only <;> omega

theorem monthAfter_monthBefore (h : 1 ≤ month ∧ month ≤ 12) :
    monthAfter (monthBefore year month).1 (monthBefore year month).2 = (year, month) := by
  by_cases first : month = 1
  · simp [monthBefore, monthAfter, first]
  · have inYear : ¬ month - 1 = 12 := by omega
    simp [monthBefore, monthAfter, first, inYear]

/-- A day counted on from the end of its month is the same day. -/
theorem ordinal_monthAfter (h : 1 ≤ month ∧ month ≤ 12) (day : Int) :
    ordinal (monthAfter year month).1 (monthAfter year month).2 (day - monthLength year month) =
      ordinal year month day := by
  by_cases last : month = 12
  · have length := daysBeforeMonth_twelve year
    have next := daysBeforeYear_succ year
    simp only [monthAfter, last, if_true, ordinal, daysBeforeMonth_one]
    omega
  · have next := daysBeforeMonth_succ year h.1 (show month < 12 by omega)
    simp only [monthAfter, last, if_false, ordinal]
    omega

theorem ordinal_monthBefore (h : 1 ≤ month ∧ month ≤ 12) (day : Int) :
    ordinal (monthBefore year month).1 (monthBefore year month).2
      (day + monthLength (monthBefore year month).1 (monthBefore year month).2) =
        ordinal year month day := by
  have inYear : 1 ≤ (monthBefore year month).2 ∧ (monthBefore year month).2 ≤ 12 :=
    monthBefore_range h
  -- counted on from the end of the month before, the day is in its own month again
  have back := @ordinal_monthAfter (monthBefore year month).1 _ inYear
    (day + monthLength (monthBefore year month).1 (monthBefore year month).2)
  rw [monthAfter_monthBefore h, Int.add_sub_cancel] at back
  exact back.symm

end Calendar

namespace TypedDay

/-! ### The four loops -/

/-- While the month is above 12, twelve months become a year. -/
def carryYears : Loop TypedDay where
  guard d := decide (12 < d.month)
  body d := ⟨d.month - 12, d.day, d.year + 1⟩
  measure d := d.month.toNat
  decreases d h := by
    simp only [decide_eq_true_eq] at h
    simp only; omega

@[simp] theorem guard_carryYears (d : TypedDay) : carryYears.guard d = decide (12 < d.month) := rfl

/-- While the month is below 1, a year becomes twelve months. -/
def borrowYears : Loop TypedDay where
  guard d := decide (d.month < 1)
  body d := ⟨d.month + 12, d.day, d.year - 1⟩
  measure d := (1 - d.month).toNat
  decreases d h := by
    simp only [decide_eq_true_eq] at h
    simp only; omega

@[simp] theorem guard_borrowYears (d : TypedDay) : borrowYears.guard d = decide (d.month < 1) := rfl

/-- While the day is below 1, it is counted from the month before. -/
def borrowMonths : Loop TypedDay where
  guard d := decide (d.day < 1)
  body d :=
    let before := Calendar.monthBefore d.year d.month
    ⟨before.2, d.day + Calendar.monthLength before.1 before.2, before.1⟩
  measure d := (1 - d.day).toNat
  decreases d h := by
    have long := Calendar.monthLength_bounds (Calendar.monthBefore d.year d.month).1
      (Calendar.monthBefore d.year d.month).2
    simp only [decide_eq_true_eq] at h
    simp only; omega

@[simp] theorem guard_borrowMonths (d : TypedDay) : borrowMonths.guard d = decide (d.day < 1) := rfl

/-- While the day is beyond its month, it is counted from the month after. -/
def carryMonths : Loop TypedDay where
  guard d := decide (Calendar.monthLength d.year d.month < d.day)
  body d :=
    let after := Calendar.monthAfter d.year d.month
    ⟨after.2, d.day - Calendar.monthLength d.year d.month, after.1⟩
  measure d := d.day.toNat
  decreases d h := by
    have long := Calendar.monthLength_bounds d.year d.month
    simp only [decide_eq_true_eq] at h
    simp only; omega

@[simp] theorem guard_carryMonths (d : TypedDay) :
    carryMonths.guard d = decide (Calendar.monthLength d.year d.month < d.day) := rfl

/-- Months are carried into years, and the day is left alone. -/
def monthsCarried (d : TypedDay) : TypedDay := borrowYears.run (carryYears.run d)

/-- Months are carried into years and then days into months, one unit at a time. -/
def carried (d : TypedDay) : TypedDay := carryMonths.run (borrowMonths.run d.monthsCarried)

/-! ### Months into years -/

/-- The carried month depends on the number of months in all. -/
theorem carriedMonth_congr {d e : TypedDay}
    (h : 12 * d.year + d.month = 12 * e.year + e.month) : d.carriedMonth = e.carriedMonth := by
  simp only [carriedMonth, h]

theorem carriedMonth_monthsCarried (d : TypedDay) :
    d.monthsCarried.carriedMonth = d.carriedMonth := by
  have up := carryYears.apply_run carriedMonth (fun e _ => carriedMonth_congr (by
    simp only [carryYears]; omega)) d
  have down := borrowYears.apply_run carriedMonth (fun e _ => carriedMonth_congr (by
    simp only [borrowYears]; omega)) (carryYears.run d)
  exact down.trans up

theorem day_monthsCarried (d : TypedDay) : d.monthsCarried.day = d.day := by
  have up := carryYears.apply_run day (fun _ _ => rfl) d
  have down := borrowYears.apply_run day (fun _ _ => rfl) (carryYears.run d)
  exact down.trans up

theorem month_monthsCarried (d : TypedDay) :
    1 ≤ d.monthsCarried.month ∧ d.monthsCarried.month ≤ 12 := by
  have above := carryYears.guard_run d
  have below := borrowYears.guard_run (carryYears.run d)
  simp only [guard_carryYears, guard_borrowYears, decide_eq_false_iff_not, not_lt] at above below
  -- the second loop stops at 12 at the latest, so it does not undo the first
  have still : d.monthsCarried.month ≤ 12 := by
    apply borrowYears.run_keeps (P := fun e => e.month ≤ 12) _ above
    intro e below _
    simp only [guard_borrowYears, decide_eq_true_eq] at below
    simp only [borrowYears]
    omega
  exact ⟨below, still⟩

/-- The two loops come to the quotient and the remainder of one division. -/
theorem monthsCarried_eq (d : TypedDay) :
    d.monthsCarried = ⟨d.carriedMonth.2, d.day, d.carriedMonth.1⟩ := by
  have carried := d.carriedMonth_monthsCarried
  rw [carriedMonth_of_month d.month_monthsCarried] at carried
  rw [← carried, ← d.day_monthsCarried]

/-! ### Days into months -/

/-- The month is one of the twelve, and the day has the number `n`. -/
structure Numbered (n : Int) (d : TypedDay) : Prop where
  month_range : 1 ≤ d.month ∧ d.month ≤ 12
  ordinal_eq : Calendar.ordinal d.year d.month d.day = n

theorem Numbered.borrow {n : Int} {d : TypedDay} (h : d.Numbered n) :
    (borrowMonths.run d).Numbered n := by
  apply borrowMonths.run_keeps _ h
  intro e _ inv
  exact ⟨Calendar.monthBefore_range inv.month_range,
    (Calendar.ordinal_monthBefore inv.month_range e.day).trans inv.ordinal_eq⟩

theorem Numbered.carry {n : Int} {d : TypedDay} (h : d.Numbered n) :
    (carryMonths.run d).Numbered n := by
  apply carryMonths.run_keeps _ h
  intro e _ inv
  exact ⟨Calendar.monthAfter_range inv.month_range,
    (Calendar.ordinal_monthAfter inv.month_range e.day).trans inv.ordinal_eq⟩

theorem numbered_carried (d : TypedDay) :
    d.carried.Numbered (Calendar.ordinal d.carriedMonth.1 d.carriedMonth.2 d.day) := by
  have start : d.monthsCarried.Numbered
      (Calendar.ordinal d.carriedMonth.1 d.carriedMonth.2 d.day) :=
    ⟨d.month_monthsCarried, by rw [monthsCarried_eq]⟩
  exact start.borrow.carry

/-- Carrying ends at a day that stands in its month. -/
theorem isDay_carried (d : TypedDay) :
    Calendar.IsDay d.carried.year d.carried.month d.carried.day := by
  have below := borrowMonths.guard_run d.monthsCarried
  have beyond := carryMonths.guard_run (borrowMonths.run d.monthsCarried)
  simp only [guard_borrowMonths, guard_carryMonths, decide_eq_false_iff_not, not_lt] at below beyond
  have notBelow : 1 ≤ d.carried.day := by
    apply carryMonths.run_keeps (P := fun e => 1 ≤ e.day) _ below
    intro e beyond _
    simp only [guard_carryMonths, decide_eq_true_eq] at beyond
    simp only [carryMonths]
    omega
  exact ⟨d.numbered_carried.month_range, notBelow, beyond⟩

theorem ofOrdinal_carriedMonth (d : TypedDay) :
    Calendar.ofOrdinal (Calendar.ordinal d.carriedMonth.1 d.carriedMonth.2 d.day) =
      (d.carried.year, d.carried.month, d.carried.day) := by
  rw [← d.numbered_carried.ordinal_eq, d.isDay_carried.ofOrdinal_ordinal]

/-! ### Rolling over -/

/-- Rolling over and carrying come to the same date, if the carried month is in one of the years 1
to 9999. -/
theorem rolledOver?_eq (d : TypedDay) : d.rolledOver? =
    if 1 ≤ d.monthsCarried.year ∧ d.monthsCarried.year ≤ 9999 then d.carried.asTyped?
    else none := by
  have year : d.monthsCarried.year = d.carriedMonth.1 := by rw [monthsCarried_eq]
  have month : 1 ≤ d.carriedMonth.2 ∧ d.carriedMonth.2 ≤ 12 := by
    simpa only [monthsCarried_eq] using d.month_monthsCarried
  have long := Calendar.monthLength_bounds d.carriedMonth.1 d.carriedMonth.2
  rw [year]
  by_cases inRange : 1 ≤ d.carriedMonth.1 ∧ d.carriedMonth.1 ≤ 9999
  · have first : Date.of? d.carriedMonth.1 d.carriedMonth.2 1 =
        some ⟨d.carriedMonth.1, d.carriedMonth.2, 1, inRange, month, by omega⟩ :=
      Date.of?_eq_some_iff.2 ⟨rfl, rfl, rfl⟩
    have number : Calendar.ordinal d.carriedMonth.1 d.carriedMonth.2 1 + (d.day - 1) =
        Calendar.ordinal d.carriedMonth.1 d.carriedMonth.2 d.day := by
      simp only [Calendar.ordinal]; omega
    simp only [rolledOver?, first, Option.bind_some, Date.ordinal, number, Date.ofOrdinal?,
      ofOrdinal_carriedMonth, inRange, and_self, if_true, asTyped?]
  · have first : Date.of? d.carriedMonth.1 d.carriedMonth.2 1 = none := dif_neg fun h => inRange h.1
    simp only [rolledOver?, first, Option.bind_none, if_neg inRange]

/-- Years exchanged for twelve months each. -/
def exchanged (d : TypedDay) (k : Int) : TypedDay := ⟨d.month + 12 * k, d.day, d.year - k⟩

theorem rolledOver?_exchanged (d : TypedDay) (k : Int) :
    (d.exchanged k).rolledOver? = d.rolledOver? := by
  have month : (d.exchanged k).carriedMonth = d.carriedMonth := by
    apply carriedMonth_congr
    simp only [exchanged]; omega
  have day : (d.exchanged k).day = d.day := rfl
  simp only [rolledOver?, month, day]

/-- The lenient mode comes to a date exactly if carrying months into years ends in one of the years
1 to 9999 and carrying days into months, one unit at a time, ends at that date. Exchanging years for
months does not change the date; where there is none, the day fails with either numbers, and in the
same way: as a day outside the calendar, unless the numbers are too long to be written. -/
theorem resolve_lenient_carries (d : TypedDay) :
    (∀ date, d.resolve .lenient = .ok date ↔
      (1 ≤ d.monthsCarried.year ∧ d.monthsCarried.year ≤ 9999) ∧ ofDate date = d.carried) ∧
    ∀ k : Int,
      (∃ date, d.resolve .lenient = .ok date ∧ (d.exchanged k).resolve .lenient = .ok date) ∨
        d.FailsOutside ∧ (d.exchanged k).FailsOutside := by
  constructor
  · intro date
    rw [resolve_lenient_eq_ok_iff, rolledOver?_eq]
    split
    · rename_i inRange
      simp [inRange, asTyped?_eq_some_iff]
    · rename_i outside
      simp [outside]
  · intro k
    have same := d.rolledOver?_exchanged k
    cases rolled : d.rolledOver? with
    | some date =>
      rw [rolled] at same
      exact .inl ⟨date, resolve_lenient_eq_ok_iff.2 rolled, resolve_lenient_eq_ok_iff.2 same⟩
    | none =>
      rw [rolled] at same
      exact .inr ⟨failsOutside_iff.2 rolled, failsOutside_iff.2 same⟩

example : (⟨-1, -400, 2024⟩ : TypedDay).carried = ⟨9, 26, 2022⟩ := by cbv

end TypedDay

end PhotoSearch
