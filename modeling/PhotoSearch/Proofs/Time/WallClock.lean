import PhotoSearch.Proofs.Calendar.Order
import PhotoSearch.Query.Span

/-!
Wall clocks. Times of a day come in the order of hour, minute, second and microsecond, and a span
holds the timestamps whose wall clock shows one of its days, but on the last one nothing after
23:59:59.
-/

namespace PhotoSearch

namespace TimeOfDay

def key (t : TimeOfDay) : Nat ×ₗ Nat ×ₗ Nat ×ₗ Nat :=
  toLex (t.hour, toLex (t.minute, toLex (t.second, t.micro)))

theorem key_injective : Function.Injective key := by
  intro a b h
  cases a; cases b
  simpa [key] using h

instance : LinearOrder TimeOfDay := LinearOrder.lift' key key_injective

theorem lt_iff {a b : TimeOfDay} : a < b ↔
    a.hour < b.hour ∨ a.hour = b.hour ∧ (a.minute < b.minute ∨ a.minute = b.minute ∧
      (a.second < b.second ∨ a.second = b.second ∧ a.micro < b.micro)) := by
  change a.key < b.key ↔ _
  simp only [key, Prod.Lex.toLex_lt_toLex]

theorem micros_strictMono : StrictMono micros := by
  intro a b h
  have := a.minute_lt; have := a.second_lt; have := a.micro_lt
  have := b.minute_lt; have := b.second_lt; have := b.micro_lt
  simp only [micros]
  rcases lt_iff.1 h with hour | ⟨sameHour, minute | ⟨sameMinute, second | ⟨sameSecond, micro⟩⟩⟩ <;>
    omega

theorem micros_lt_micros_iff {a b : TimeOfDay} : a.micros < b.micros ↔ a < b :=
  micros_strictMono.lt_iff_lt

theorem midnight_le (t : TimeOfDay) : midnight ≤ t := by
  rw [← not_lt, ← micros_lt_micros_iff]
  exact Nat.not_lt_zero _

end TimeOfDay

namespace Timestamp

/-- The wall clock shows a day from the first to the last, and on the last one no time after
23:59:59. -/
def OnDays (t : Timestamp) (first last : Date) : Prop :=
  (first ≤ t.date ∧ t.date ≤ last) ∧ ¬ (t.date = last ∧ TimeOfDay.lastSecond < t.time)

instance (t : Timestamp) (first last : Date) : Decidable (t.OnDays first last) :=
  inferInstanceAs (Decidable (_ ∧ _))

/-- Wall clocks compare by their days, and those of one day by their times. -/
theorem wall_lt_wall_iff {t u : Timestamp} :
    t.wall < u.wall ↔ t.date < u.date ∨ t.date = u.date ∧ t.time < u.time := by
  have day := t.time.micros_lt
  have day' := u.time.micros_lt
  rw [← Date.ordinal_lt_ordinal_iff, ← Date.ordinal_inj, ← TimeOfDay.micros_lt_micros_iff]
  simp only [wall, TimeOfDay.microsPerDay] at *
  omega

end Timestamp

namespace Span

theorem contains_iff_onDays (s : Span) (t : Timestamp) :
    s.contains t = true ↔ t.OnDays s.first s.last := by
  rw [contains_iff, ← not_lt, ← not_lt, Timestamp.wall_lt_wall_iff, Timestamp.wall_lt_wall_iff]
  have early : ¬ t.time < TimeOfDay.midnight := not_lt.2 (TimeOfDay.midnight_le t.time)
  simp only [start, finish, Timestamp.OnDays, early, and_false, or_false, not_or, not_lt]
  rw [and_assoc, eq_comm]

/-- A span ends before it starts only if its last day comes before its first one. -/
theorem finish_lt_start_iff (s : Span) : s.finish.wall < s.start.wall ↔ s.last < s.first := by
  rw [Timestamp.wall_lt_wall_iff]
  have late : ¬ TimeOfDay.lastSecond < TimeOfDay.midnight := not_lt.2 (TimeOfDay.midnight_le _)
  simp only [start, finish, late, and_false, or_false]

end Span

end PhotoSearch
