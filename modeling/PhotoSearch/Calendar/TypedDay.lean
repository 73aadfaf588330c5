import PhotoSearch.Calendar.Date

/-!
A day as it was typed: three numbers of any size and sign. It is read either as it stands, or with
months carried into years and days into months.
-/

namespace PhotoSearch

structure TypedDay where
  month : Int
  day : Int
  year : Int
deriving DecidableEq

/-- Whether typed days have to be dates as they stand, or are carried to a date. -/
inductive DateMode where
  | strict
  | lenient
deriving DecidableEq

def DateMode.ofStrict (strict : Bool) : DateMode := if strict then .strict else .lenient

/-- Why a number is no component of a date: it does not fit a signed word of 64 bits, or not one
of 32. -/
inductive WordFault where
  | beyondLong
  | aboveWord
  | belowWord
deriving DecidableEq

namespace WordFault

def message : WordFault → String
  | beyondLong => "Python int too large to convert to C long"
  | aboveWord => "signed integer is greater than maximum"
  | belowWord => "signed integer is less than minimum"

/-- Words of 64 bits hold the numbers from `-longLimit` up to but not including `longLimit`. -/
def longLimit : Int := 9223372036854775808

/-- Words of 32 bits hold the numbers from `-wordLimit` up to but not including `wordLimit`. -/
def wordLimit : Int := 2147483648

def of? (n : Int) : Option WordFault :=
  if n < -longLimit ∨ longLimit ≤ n then some beyondLong
  else if wordLimit ≤ n then some aboveWord
  else if n < -wordLimit then some belowWord
  else none

theorem of?_eq_none_iff (n : Int) : of? n = none ↔ -wordLimit ≤ n ∧ n < wordLimit := by
  have hl : longLimit = 9223372036854775808 := rfl
  have hw : wordLimit = 2147483648 := rfl
  simp only [of?]; repeat' split
  all_goals simp; omega

end WordFault

/-- What a number is too large for: to fit a word, or to be written. -/
inductive Overflow where
  | word (w : WordFault)
  | digits
deriving DecidableEq

def Overflow.message : Overflow → String
  | word w => w.message
  | digits => "Exceeds the limit (" ++ Text.decimal Text.digitLimit ++ " digits) for integer " ++
      "string conversion; use sys.set_int_max_str_digits() to increase the limit"

namespace TypedDay

/-- Month, day and year, with slashes between, in the form they are typed in. -/
def textChars (d : TypedDay) : List Char :=
  Text.padded 2 d.month ++ '/' :: Text.padded 2 d.day ++ '/' :: Text.padded 4 d.year

/-- The text of a day, however long. Messages show it only where it can be written; see `label`. -/
def text (d : TypedDay) : String := String.ofList d.textChars

/-- Whether month, day and year can all be written. -/
def IsWritable (d : TypedDay) : Prop :=
  Text.IsWritable d.month ∧ Text.IsWritable d.day ∧ Text.IsWritable d.year

instance (d : TypedDay) : Decidable d.IsWritable := inferInstanceAs (Decidable (_ ∧ _ ∧ _))

def ofDate (date : Date) : TypedDay := ⟨date.month, date.day, date.year⟩

/-- The first of year, month and day, in this order, that does not fit a word. -/
def wordFault? (d : TypedDay) : Option WordFault :=
  ((WordFault.of? d.year).or (WordFault.of? d.month)).or (WordFault.of? d.day)

theorem wordFault?_eq_none_iff (d : TypedDay) : d.wordFault? = none ↔
    WordFault.of? d.year = none ∧ WordFault.of? d.month = none ∧ WordFault.of? d.day = none := by
  simp [wordFault?, and_assoc]

/-- The date whose own month, day and year were typed. -/
def asTyped? (d : TypedDay) : Option Date := Date.of? d.year d.month d.day

theorem asTyped?_eq_some_iff {d : TypedDay} {date : Date} :
    d.asTyped? = some date ↔ ofDate date = d := by
  rw [asTyped?, Date.of?_eq_some_iff]
  cases d; simp [ofDate]; omega

/-- The year and the month from 1 to 12 that the typed month and year come to. -/
def carriedMonth (d : TypedDay) : Int × Int :=
  ((12 * d.year + d.month - 1) / 12, (12 * d.year + d.month - 1) % 12 + 1)

theorem carriedMonth_of_month {d : TypedDay} (h : 1 ≤ d.month ∧ d.month ≤ 12) :
    d.carriedMonth = (d.year, d.month) := by
  simp only [carriedMonth, Prod.mk.injEq]; omega

/-- The date that is reached by carrying. The first day of the carried month has to be a date
itself, and so has the day that lies `day - 1` days after it. -/
def rolledOver? (d : TypedDay) : Option Date :=
  (Date.of? d.carriedMonth.1 d.carriedMonth.2 1).bind fun first =>
    Date.ofOrdinal? (first.ordinal + (d.day - 1))

end TypedDay

/-- A day that messages can name, since it can be written. -/
@[ext] structure DayLabel where
  day : TypedDay
  writable : day.IsWritable
deriving DecidableEq

def DayLabel.text (l : DayLabel) : String := l.day.text

/-- The label of a day, unless one of its numbers is too long to be written. -/
def TypedDay.label (d : TypedDay) : Except Overflow DayLabel :=
  if h : d.IsWritable then .ok ⟨d, h⟩ else .error .digits

theorem TypedDay.label_eq_ok_iff {d : TypedDay} {l : DayLabel} : d.label = .ok l ↔ l.day = d := by
  obtain ⟨day, writable⟩ := l
  simp only [label]
  constructor
  · intro h
    split at h <;> cases h
    rfl
  · rintro rfl
    exact dif_pos writable

theorem TypedDay.label_eq_error_iff {d : TypedDay} {o : Overflow} :
    d.label = .error o ↔ ¬ d.IsWritable ∧ o = .digits := by
  by_cases writable : d.IsWritable <;> simp [label, writable, eq_comm]

end PhotoSearch
