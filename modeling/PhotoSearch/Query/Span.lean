import PhotoSearch.Query.Reading
import PhotoSearch.Time.Timestamp

/-! Spans of dates, and the span that a range of typed days stands for. -/

namespace PhotoSearch

/-- Why a query cannot be evaluated: an error of the query itself, or a number that is too large for
the strict mode to hold or for a message to show. -/
inductive Fault where
  | query (e : QueryError)
  | overflow (o : Overflow)

def Fault.message : Fault → String
  | query e => e.message
  | overflow o => o.message

/-- An error that names days, if these can be written. -/
def Fault.naming : Except Overflow QueryError → Fault
  | .ok e => query e
  | .error o => overflow o

theorem Fault.naming_eq_query_iff {x : Except Overflow QueryError} {e : QueryError} :
    naming x = .query e ↔ x = .ok e := by
  cases x <;> simp [naming]

theorem Fault.naming_eq_overflow_iff {x : Except Overflow QueryError} {o : Overflow} :
    naming x = .overflow o ↔ x = .error o := by
  cases x <;> simp [naming]

/-- That a day is no date as it stands. -/
def TypedDay.unreal (d : TypedDay) : Except Overflow QueryError := d.label.map .notCalendarDate

/-- That a day is carried to no date. -/
def TypedDay.outside (d : TypedDay) : Except Overflow QueryError := d.label.map .outsideCalendar

/-- That the first day of a range comes after the last. -/
def DayRange.reversal (r : DayRange) : Except Overflow QueryError := do
  return .reversed (← r.start.label) (← r.finish.label)

/-- The date that a typed day stands for. -/
def TypedDay.resolve (d : TypedDay) : DateMode → Except Fault Date
  | .strict =>
    match d.wordFault? with
    | some w => .error (.overflow (.word w))
    | none =>
      match d.asTyped? with
      | some date => .ok date
      | none => .error (.naming d.unreal)
  | .lenient =>
    match d.rolledOver? with
    | some date => .ok date
    | none => .error (.naming d.outside)

/-- All days from the first to the last. -/
structure Span where
  first : Date
  last : Date
deriving DecidableEq

namespace Span

def start (s : Span) : Timestamp := ⟨s.first, .midnight, none⟩

/-- The end is the last full second of the last day; what comes later in that second is outside. -/
def finish (s : Span) : Timestamp := ⟨s.last, .lastSecond, none⟩

/-- Whether a timestamp lies in the span by its wall clock. -/
def contains (s : Span) (t : Timestamp) : Bool :=
  decide (s.start.wall ≤ t.wall ∧ t.wall ≤ s.finish.wall)

theorem contains_iff (s : Span) (t : Timestamp) :
    s.contains t = true ↔ s.start.wall ≤ t.wall ∧ t.wall ≤ s.finish.wall := by
  simp [contains]

end Span

namespace DayRange

/-- The dates of a range, the first resolved before the last and both before they are compared. -/
def resolve (r : DayRange) (mode : DateMode) : Except Fault Span := do
  let span : Span := ⟨← r.start.resolve mode, ← r.finish.resolve mode⟩
  if span.finish.wall < span.start.wall then .error (.naming r.reversal)
  else .ok span

/-- The span of a range that is given as raw input. -/
def resolveRaw (raw : Data) (mode : DateMode) : Except Fault Span :=
  match read raw with
  | .ok r => r.resolve mode
  | .error e => .error (.query e)

end DayRange

end PhotoSearch
