import PhotoSearch.Proofs.Calendar.TypedDay
import PhotoSearch.Proofs.Time.WallClock
import PhotoSearch.Query.Matching

/-!
Resolving typed days. A date typed as it stands resolves to itself in both modes. A range fails as a
bad range or because a number is too large: in the strict mode to fit a word, in the lenient mode to
be written where a message has to name it. Exactly when this happens is the main statement.
-/

namespace PhotoSearch

section Except

variable {ε α β : Type} {x : Except ε α}

theorem bind_eq_error_iff {f : α → Except ε β} {e : ε} :
    x.bind f = .error e ↔ x = .error e ∨ ∃ a, x = .ok a ∧ f a = .error e := by
  cases x <;> simp [Except.bind]

theorem map_eq_error_iff {f : α → β} {e : ε} : x.map f = .error e ↔ x = .error e := by
  cases x <;> simp [Except.map]

theorem map_eq_ok_iff {f : α → β} {b : β} : x.map f = .ok b ↔ ∃ a, x = .ok a ∧ b = f a := by
  cases x <;> simp [Except.map, eq_comm]

theorem mapError_eq_ok_iff {ε' : Type} {f : ε → ε'} {a : α} : x.mapError f = .ok a ↔ x = .ok a := by
  cases x <;> simp [Except.mapError]

end Except

namespace TypedDay

theorem resolve_strict_eq_ok_iff {d : TypedDay} {date : Date} :
    d.resolve .strict = .ok date ↔ ofDate date = d := by
  rw [← asTyped?_eq_some_iff]
  simp only [resolve]
  split
  · rename_i fault
    have unreal : d.asTyped? ≠ some date := by
      intro typed
      have fits := (wordFault?_eq_none_iff_fitsWord _).2 (isShort_ofDate date).fitsWord
      rw [asTyped?_eq_some_iff.1 typed, fault] at fits
      cases fits
    simp [unreal]
  · cases d.asTyped? <;> simp

theorem resolve_lenient_eq_ok_iff {d : TypedDay} {date : Date} :
    d.resolve .lenient = .ok date ↔ d.rolledOver? = some date := by
  simp only [resolve]
  cases d.rolledOver? <;> simp

theorem resolve_lenient_eq_error_iff {d : TypedDay} {f : Fault} :
    d.resolve .lenient = .error f ↔ d.rolledOver? = none ∧ f = .naming d.outside := by
  simp only [resolve]
  cases d.rolledOver? <;> simp [eq_comm]

/-- A date that is typed as it stands is meant in both modes. -/
theorem resolve_ofDate (date : Date) (mode : DateMode) : (ofDate date).resolve mode = .ok date := by
  cases mode with
  | strict => exact resolve_strict_eq_ok_iff.2 rfl
  | lenient => simp only [resolve, rolledOver?_ofDate]

/-! What can be wrong with a day, once it is named. -/

theorem unreal_eq_ok_iff {d : TypedDay} {e : QueryError} :
    d.unreal = .ok e ↔ ∃ l : DayLabel, l.day = d ∧ e = .notCalendarDate l := by
  simp only [unreal, map_eq_ok_iff, label_eq_ok_iff]

theorem outside_eq_ok_iff {d : TypedDay} {e : QueryError} :
    d.outside = .ok e ↔ ∃ l : DayLabel, l.day = d ∧ e = .outsideCalendar l := by
  simp only [outside, map_eq_ok_iff, label_eq_ok_iff]

theorem outside_eq_error_iff {d : TypedDay} {o : Overflow} :
    d.outside = .error o ↔ ¬ d.IsWritable ∧ o = .digits := by
  rw [outside, map_eq_error_iff, label_eq_error_iff]

/-- Numbers that fit a word can be written. -/
theorem unreal_ne_error {d : TypedDay} (h : d.wordFault? = none) (o : Overflow) :
    d.unreal ≠ .error o := by
  rw [unreal, Ne, map_eq_error_iff, label_eq_error_iff]
  exact fun long => long.1 ((wordFault?_eq_none_iff_fitsWord d).1 h).isWritable

/-- The lenient mode fails: as a day outside the calendar if the day can be written, and because of its
digits if not. -/
structure FailsOutside (d : TypedDay) : Prop where
  named : d.IsWritable → ∃ l : DayLabel, l.day = d ∧
    d.resolve .lenient = .error (.query (.outsideCalendar l))
  unnamed : ¬ d.IsWritable → d.resolve .lenient = .error (.overflow .digits)

theorem failsOutside_iff {d : TypedDay} : d.FailsOutside ↔ d.rolledOver? = none := by
  constructor
  · intro fails
    by_cases writable : d.IsWritable
    · obtain ⟨l, -, failed⟩ := fails.named writable
      exact (resolve_lenient_eq_error_iff.1 failed).1
    · exact (resolve_lenient_eq_error_iff.1 (fails.unnamed writable)).1
  · intro outside
    refine ⟨fun writable => ⟨⟨d, writable⟩, rfl, ?_⟩, fun long => ?_⟩
    · exact resolve_lenient_eq_error_iff.2 ⟨outside, (Fault.naming_eq_query_iff.2
        (outside_eq_ok_iff.2 ⟨⟨d, writable⟩, rfl, rfl⟩)).symm⟩
    · exact resolve_lenient_eq_error_iff.2 ⟨outside, (Fault.naming_eq_overflow_iff.2
        (outside_eq_error_iff.2 ⟨long, rfl⟩)).symm⟩

theorem resolve_lenient_eq_overflow_iff {d : TypedDay} {o : Overflow} :
    d.resolve .lenient = .error (.overflow o) ↔
      d.rolledOver? = none ∧ ¬ d.IsWritable ∧ o = .digits := by
  rw [resolve_lenient_eq_error_iff, @eq_comm _ (Fault.overflow o), Fault.naming_eq_overflow_iff,
    outside_eq_error_iff]

theorem resolve_eq_word_iff {d : TypedDay} {mode : DateMode} {w : WordFault} :
    d.resolve mode = .error (.overflow (.word w)) ↔ mode = .strict ∧ d.wordFault? = some w := by
  cases mode with
  | strict =>
    simp only [resolve, true_and]
    split
    · rename_i fault
      simp [fault]
    · rename_i fits
      cases d.asTyped? <;>
        simp [fits, Fault.naming_eq_overflow_iff, unreal_ne_error fits]
  | lenient => simp [resolve_lenient_eq_overflow_iff]

theorem resolve_eq_digits_iff {d : TypedDay} {mode : DateMode} :
    d.resolve mode = .error (.overflow .digits) ↔
      mode = .lenient ∧ d.rolledOver? = none ∧ ¬ d.IsWritable := by
  cases mode with
  | strict =>
    simp only [resolve]
    split
    · simp
    · rename_i fits
      cases d.asTyped? <;> simp [Fault.naming_eq_overflow_iff, unreal_ne_error fits]
  | lenient => simp [resolve_lenient_eq_overflow_iff]

/-- What is wrong with a day is that it is no date as it stands, or that it is carried to none. -/
theorem resolve_error_cases {d : TypedDay} {mode : DateMode} {e : QueryError}
    (h : d.resolve mode = .error (.query e)) :
    ∃ l : DayLabel, l.day = d ∧ (e = .notCalendarDate l ∨ e = .outsideCalendar l) := by
  cases mode with
  | strict =>
    simp only [resolve] at h
    split at h
    · cases h
    · split at h
      · cases h
      · obtain ⟨l, day, rfl⟩ := unreal_eq_ok_iff.1 (Fault.naming_eq_query_iff.1 (Except.error.inj h))
        exact ⟨l, day, .inl rfl⟩
  | lenient =>
    have named := (resolve_lenient_eq_error_iff.1 h).2
    obtain ⟨l, day, rfl⟩ := outside_eq_ok_iff.1 (Fault.naming_eq_query_iff.1 named.symm)
    exact ⟨l, day, .inr rfl⟩

theorem errorClass_of_resolve {d : TypedDay} {mode : DateMode} {e : QueryError}
    (h : d.resolve mode = .error (.query e)) : e.errorClass = .badRange := by
  obtain ⟨l, -, rfl | rfl⟩ := resolve_error_cases h <;> rfl

end TypedDay

namespace DayRange

theorem reversal_eq_ok_iff {r : DayRange} {e : QueryError} : r.reversal = .ok e ↔
    ∃ s f : DayLabel, s.day = r.start ∧ f.day = r.finish ∧ e = .reversed s f := by
  simp only [← TypedDay.label_eq_ok_iff, reversal]
  cases r.start.label <;> cases r.finish.label <;> simp [bind, Except.bind, pure, Except.pure, eq_comm]

theorem reversal_eq_error_iff {r : DayRange} {o : Overflow} :
    r.reversal = .error o ↔ ¬ (r.start.IsWritable ∧ r.finish.IsWritable) ∧ o = .digits := by
  by_cases start : r.start.IsWritable <;> by_cases finish : r.finish.IsWritable <;>
    simp [reversal, TypedDay.label, start, finish, bind, Except.bind, pure, Except.pure, eq_comm]

/-- The days are resolved one after the other and then compared. -/
theorem resolve_eq_bind (r : DayRange) (mode : DateMode) : r.resolve mode =
    (r.start.resolve mode).bind fun first => (r.finish.resolve mode).bind fun last =>
      if last < first then .error (.naming r.reversal) else .ok ⟨first, last⟩ := by
  simp only [resolve, bind, Span.finish_lt_start_iff]

theorem resolve_eq_ok_iff {r : DayRange} {mode : DateMode} {span : Span} :
    r.resolve mode = .ok span ↔ r.start.resolve mode = .ok span.first ∧
      r.finish.resolve mode = .ok span.last ∧ span.first ≤ span.last := by
  obtain ⟨first, last⟩ := span
  rw [resolve_eq_bind]
  cases r.start.resolve mode with
  | error f => simp [Except.bind]
  | ok first' =>
    cases r.finish.resolve mode with
    | error f => simp [Except.bind]
    | ok last' =>
      simp only [Except.bind, Except.ok.injEq]
      split
      · rename_i reversed
        refine iff_of_false (by simp) ?_
        rintro ⟨rfl, rfl, order⟩
        exact not_lt.2 order reversed
      · rename_i order
        rw [Except.ok.injEq, Span.mk.injEq]
        constructor
        · rintro ⟨rfl, rfl⟩
          exact ⟨rfl, rfl, not_lt.1 order⟩
        · exact fun h => ⟨h.1, h.2.1⟩

theorem evaluate_eq_map (r : DayRange) (mode : DateMode) (photos : List Photo) :
    r.evaluate mode photos =
      (r.resolve mode).map fun span => photos.filter fun p => span.contains p.timestamp := by
  simp only [evaluate, test]
  cases r.resolve mode <;> rfl

/-- The start of the range has a number that does not fit a word, or else the start is a date and the
finish has such a number. Numbers have to fit in the strict mode only. -/
def Overflows (r : DayRange) (mode : DateMode) : Prop :=
  mode = .strict ∧
    (¬ r.start.FitsWord ∨ (∃ date, TypedDay.ofDate date = r.start) ∧ ¬ r.finish.FitsWord)

/-- A day has numbers too long to be written where a message has to name it: one that is carried to no
date, or one of two that are carried to dates in the wrong order. -/
inductive LacksLabel (r : DayRange) : Prop
  | start (outside : r.start.rolledOver? = none) (long : ¬ r.start.IsWritable)
  | finish {first : Date} (inside : r.start.rolledOver? = some first)
    (outside : r.finish.rolledOver? = none) (long : ¬ r.finish.IsWritable)
  | order {first last : Date} (hs : r.start.rolledOver? = some first)
    (hf : r.finish.rolledOver? = some last) (reversed : last < first)
    (long : ¬ (r.start.IsWritable ∧ r.finish.IsWritable))

theorem resolve_eq_word_iff {r : DayRange} {mode : DateMode} {w : WordFault} :
    r.resolve mode = .error (.overflow (.word w)) ↔ mode = .strict ∧
      (r.start.wordFault? = some w ∨
        (∃ date, TypedDay.ofDate date = r.start) ∧ r.finish.wordFault? = some w) := by
  have compared : ∀ first last : Date,
      (if last < first then .error (.naming r.reversal) else .ok ⟨first, last⟩ :
        Except Fault Span) ≠ .error (.overflow (.word w)) := by
    intro first last
    split
    · simp [Fault.naming_eq_overflow_iff, reversal_eq_error_iff]
    · simp
  simp only [resolve_eq_bind, bind_eq_error_iff, compared, and_false, exists_false, or_false,
    TypedDay.resolve_eq_word_iff]
  cases mode with
  | strict => simp [TypedDay.resolve_strict_eq_ok_iff]
  | lenient => simp

theorem resolve_eq_digits_iff {r : DayRange} {mode : DateMode} :
    r.resolve mode = .error (.overflow .digits) ↔ mode = .lenient ∧ r.LacksLabel := by
  have compared : ∀ first last : Date,
      (if last < first then .error (.naming r.reversal) else .ok ⟨first, last⟩ :
        Except Fault Span) = .error (.overflow .digits) ↔
      last < first ∧ ¬ (r.start.IsWritable ∧ r.finish.IsWritable) := by
    intro first last
    split
    · rename_i reversed
      simp [reversed, Fault.naming_eq_overflow_iff, reversal_eq_error_iff]
    · rename_i ordered
      simp [ordered]
  simp only [resolve_eq_bind, bind_eq_error_iff, compared, TypedDay.resolve_eq_digits_iff]
  cases mode with
  | strict =>
    -- dates that were typed as they stand can be written
    simp only [reduceCtorEq, false_and, false_or, iff_false, TypedDay.resolve_strict_eq_ok_iff]
    rintro ⟨first, start, last, finish, -, long⟩
    have writable : ∀ date, (TypedDay.ofDate date).IsWritable :=
      fun date => (TypedDay.isShort_ofDate date).fitsWord.isWritable
    exact long ⟨start ▸ writable first, finish ▸ writable last⟩
  | lenient =>
    simp only [true_and, TypedDay.resolve_lenient_eq_ok_iff]
    constructor
    · rintro (⟨outside, long⟩ | ⟨first, inside, ⟨outside, long⟩ | ⟨last, hf, reversed, long⟩⟩)
      · exact .start outside long
      · exact .finish inside outside long
      · exact .order inside hf reversed long
    · rintro (⟨outside, long⟩ | ⟨inside, outside, long⟩ | ⟨hs, hf, reversed, long⟩)
      · exact .inl ⟨outside, long⟩
      · exact .inr ⟨_, inside, .inl ⟨outside, long⟩⟩
      · exact .inr ⟨_, hs, .inr ⟨_, hf, reversed, long⟩⟩

/-- What is wrong with a range is wrong with its first day or its last, or is their order. -/
theorem resolve_error_cases {r : DayRange} {mode : DateMode} {e : QueryError}
    (h : r.resolve mode = .error (.query e)) : r.start.resolve mode = .error (.query e) ∨
      r.finish.resolve mode = .error (.query e) ∨
      ∃ s f : DayLabel, s.day = r.start ∧ f.day = r.finish ∧ e = .reversed s f := by
  simp only [resolve_eq_bind, bind_eq_error_iff] at h
  rcases h with start | ⟨first, -, finish | ⟨last, -, compared⟩⟩
  · exact .inl start
  · exact .inr (.inl finish)
  · split at compared
    · exact .inr (.inr (reversal_eq_ok_iff.1
        (Fault.naming_eq_query_iff.1 (Except.error.inj compared))))
    · cases compared

theorem errorClass_of_resolve {r : DayRange} {mode : DateMode} {e : QueryError}
    (h : r.resolve mode = .error (.query e)) : e.errorClass = .badRange := by
  rcases resolve_error_cases h with start | finish | ⟨s, f, -, -, rfl⟩
  · exact TypedDay.errorClass_of_resolve start
  · exact TypedDay.errorClass_of_resolve finish
  · rfl

theorem exists_word_iff (r : DayRange) (mode : DateMode) :
    (∃ w, r.resolve mode = .error (.overflow (.word w))) ↔ r.Overflows mode := by
  have unfit : ∀ d : TypedDay, (∃ w, d.wordFault? = some w) ↔ ¬ d.FitsWord := by
    intro d
    rw [← TypedDay.wordFault?_eq_none_iff_fitsWord, ← Option.ne_none_iff_exists']
  simp only [resolve_eq_word_iff, Overflows, exists_and_left, exists_or, unfit]

end DayRange

/-- Success, or an error of the class of bad ranges. -/
def FailsAsRange {α : Type} (x : Except Fault α) : Prop :=
  ∀ f, x = .error f → ∃ e : QueryError, f = .query e ∧ e.errorClass = .badRange

/-- A number turns out not to fit a word, or to have too many digits, exactly under these conditions;
else there is success or a bad range. -/
structure OverflowsExactly {α : Type} (x : Except Fault α) (unfit long : Prop) : Prop where
  word : (∃ w, x = .error (.overflow (.word w))) ↔ unfit
  digits : x = .error (.overflow .digits) ↔ long
  otherwise : FailsAsRange x ↔ ¬ unfit ∧ ¬ long

/-- What is done with the value of a success changes no failure. -/
theorem OverflowsExactly.map {α β : Type} {x : Except Fault α} {unfit long : Prop}
    (h : OverflowsExactly x unfit long) (g : α → β) : OverflowsExactly (x.map g) unfit long := by
  have same : ∀ f, x.map g = .error f ↔ x = .error f := fun f => map_eq_error_iff
  refine ⟨?_, ?_, ?_⟩
  · simpa only [same] using h.word
  · simpa only [same] using h.digits
  · simpa only [FailsAsRange, same] using h.otherwise

theorem DayRange.resolve_overflowsExactly (r : DayRange) (mode : DateMode) :
    OverflowsExactly (r.resolve mode) (r.Overflows mode) (mode = .lenient ∧ r.LacksLabel) := by
  refine ⟨r.exists_word_iff mode, resolve_eq_digits_iff, ?_⟩
  rw [← exists_word_iff, ← resolve_eq_digits_iff]
  constructor
  · intro h
    refine ⟨?_, fun digits => ?_⟩
    · rintro ⟨w, word⟩
      obtain ⟨e, same, -⟩ := h _ word
      cases same
    · obtain ⟨e, same, -⟩ := h _ digits
      cases same
  · rintro ⟨noWord, noDigits⟩ f failed
    cases f with
    | query e => exact ⟨e, rfl, errorClass_of_resolve failed⟩
    | overflow o =>
      cases o with
      | word w => exact absurd ⟨w, failed⟩ noWord
      | digits => exact absurd failed noDigits

theorem DayRange.evaluate_overflowsExactly (r : DayRange) (mode : DateMode) (photos : List Photo) :
    OverflowsExactly (r.evaluate mode photos) (r.Overflows mode)
      (mode = .lenient ∧ r.LacksLabel) := by
  rw [evaluate_eq_map]
  exact (r.resolve_overflowsExactly mode).map _

/-- Resolving a range and evaluating it, directly or as a query, fail because of a number exactly in
two cases: the strict mode meets one that does not fit a word, or the lenient mode has to name a day
with one too long to be written. In all other cases they succeed or fail as a bad range. -/
theorem dates_overflow_exactly (r : DayRange) (mode : DateMode) (photos : List Photo) :
    OverflowsExactly (r.resolve mode) (r.Overflows mode) (mode = .lenient ∧ r.LacksLabel) ∧
      OverflowsExactly (r.evaluate mode photos) (r.Overflows mode)
        (mode = .lenient ∧ r.LacksLabel) ∧
      OverflowsExactly ((Query.dates r).evaluate mode photos) (r.Overflows mode)
        (mode = .lenient ∧ r.LacksLabel) := by
  have evaluated := r.evaluate_overflowsExactly mode photos
  refine ⟨r.resolve_overflowsExactly mode, evaluated, ?_⟩
  rw [Query.dates_evaluate]
  exact evaluated

/-- A year from 10000 on, with a month from 1 to 12, is outside the calendar. -/
theorem TypedDay.rolledOver?_of_late {d : TypedDay} (month : 1 ≤ d.month ∧ d.month ≤ 12)
    (late : 10000 ≤ d.year) : d.rolledOver? = none := by
  have first : Date.of? d.year d.month 1 = none := dif_neg fun h => by omega
  rw [rolledOver?, carriedMonth_of_month month, first, Option.bind_none]

/-- In the strict mode, a year just beyond the word is no bad range; in the lenient mode, nor is one
with a digit more than can be written. -/
theorem years_beyond_word_and_digits_overflow :
    ¬ FailsAsRange ((Query.dates ⟨"typed", ⟨1, 1, 2147483648⟩, ⟨1, 1, 2020⟩⟩).evaluate .strict []) ∧
      ¬ FailsAsRange ((Query.dates
        ⟨"typed", ⟨1, 1, 10 ^ Text.digitLimit⟩, ⟨1, 1, 2020⟩⟩).evaluate .lenient []) := by
  constructor
  · intro h
    obtain ⟨e, same, -⟩ := h (.overflow (.word .aboveWord)) rfl
    cases same
  · have late : (10 : Int) ^ 5 ≤ 10 ^ Text.digitLimit := pow_le_pow_right₀ (by decide) (by decide)
    have outside : TypedDay.rolledOver? ⟨1, 1, 10 ^ Text.digitLimit⟩ = none :=
      TypedDay.rolledOver?_of_late ⟨le_refl 1, by decide⟩ (le_trans (by decide) late)
    have long : ¬ TypedDay.IsWritable ⟨1, 1, 10 ^ Text.digitLimit⟩ := by
      intro writable
      have few := Text.isWritable_iff.1 writable.2.2
      simp [Int.natAbs_pow] at few
    rw [Query.dates_evaluate, (DayRange.evaluate_overflowsExactly _ _ _).otherwise]
    exact fun h => h.2 ⟨rfl, .start outside long⟩

end PhotoSearch
