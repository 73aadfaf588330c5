import PhotoSearch.Proofs.Calendar.Limits

/-! The day after a date. It is there for every date but the last, and has the next number. -/

namespace PhotoSearch.Date

theorem ordinal_range (d : Date) : 1 ≤ d.ordinal ∧ d.ordinal ≤ 3652059 :=
  d.isDay.year_range_iff.1 d.year_range

/-- All the numbers of the calendar are those of dates: carrying days on from the first one of the
calendar comes to them. -/
theorem exists_ordinal_eq {n : Int} (h : 1 ≤ n ∧ n ≤ 3652059) : ∃ d : Date, d.ordinal = n := by
  let typed : TypedDay := ⟨1, n, 1⟩
  have number : typed.number = n := by
    simp [typed, TypedDay.number, TypedDay.carriedMonth, Calendar.ordinal]
  have real : typed.carried.IsReal := typed.isReal_carried_iff.2 (by rwa [number])
  obtain ⟨d, same⟩ := TypedDay.isReal_iff_exists_ofDate.1 real
  have carried := typed.numbered_carried.ordinal_eq
  rw [← same] at carried
  exact ⟨d, carried.trans number⟩

/-- No date lies between two dates exactly if the second has the number after that of the first. -/
theorem covBy_iff {a b : Date} : a ⋖ b ↔ b.ordinal = a.ordinal + 1 := by
  constructor
  · rintro ⟨less, between⟩
    have first := a.ordinal_range
    have last := b.ordinal_range
    have order := ordinal_lt_ordinal_iff.2 less
    obtain ⟨c, next⟩ := exists_ordinal_eq (show 1 ≤ a.ordinal + 1 ∧ a.ordinal + 1 ≤ 3652059 by omega)
    have above : a < c := ordinal_lt_ordinal_iff.1 (by omega)
    have upTo := ordinal_le_ordinal_iff.2 (not_lt.1 (between above))
    omega
  · intro next
    refine ⟨ordinal_lt_ordinal_iff.1 (by omega), fun c above below => ?_⟩
    have := ordinal_lt_ordinal_iff.2 above
    have := ordinal_lt_ordinal_iff.2 below
    omega

theorem exists_covBy {a b : Date} (h : a < b) : ∃ next, a ⋖ next ∧ next ≤ b := by
  have first := a.ordinal_range
  have last := b.ordinal_range
  have order := ordinal_lt_ordinal_iff.2 h
  obtain ⟨next, number⟩ := exists_ordinal_eq (show 1 ≤ a.ordinal + 1 ∧ a.ordinal + 1 ≤ 3652059 by omega)
  exact ⟨next, covBy_iff.2 number, ordinal_le_ordinal_iff.1 (by omega)⟩

end PhotoSearch.Date
