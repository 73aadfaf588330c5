import PhotoSearch.Time.Timestamp

/-!
Reading timestamps: from text, a date with or without a clock time and a zone after it, and from
Unix time.
-/

namespace PhotoSearch

inductive TimestampFault where
  | malformed
  | outOfRange
  | noNumber
deriving DecidableEq

namespace Timestamp

/-- Drops one character that satisfies `p`. -/
def skip (p : Char → Bool) : List Char → Option (List Char)
  | [] => none
  | c :: rest => if p c then some rest else none

/-- The three numbers of `YYYY-MM-DD`, with what follows. -/
def takeDate (cs : List Char) : Option ((Nat × Nat × Nat) × List Char) := do
  let (year, cs) ← Text.takeNumber 4 cs
  let (month, cs) ← Text.takeNumber 2 (← skip (· == '-') cs)
  let (day, cs) ← Text.takeNumber 2 (← skip (· == '-') cs)
  return ((year, month, day), cs)

/-- A point and digits, at least one, as microseconds; digits after the sixth are dropped. -/
def takeFraction (cs : List Char) : Option (Nat × List Char) :=
  match cs with
  | '.' :: cs =>
    let digits := cs.takeWhile Char.isDigit
    if digits ≠ [] then
      some (Text.digitsValue ((digits ++ List.replicate 6 '0').take 6), cs.drop digits.length)
    else none
  | _ => some (0, cs)

/-- Seconds after a colon, and their fraction; both are zero where no colon comes. -/
def takeSeconds (cs : List Char) : Option ((Nat × Nat) × List Char) :=
  match cs with
  | ':' :: cs => do
    let (second, cs) ← Text.takeNumber 2 cs
    let (micro, cs) ← takeFraction cs
    return ((second, micro), cs)
  | _ => some ((0, 0), cs)

def takeTime (cs : List Char) : Option (TimeOfDay × List Char) := do
  let (hour, cs) ← Text.takeNumber 2 cs
  let (minute, cs) ← Text.takeNumber 2 (← skip (· == ':') cs)
  let ((second, micro), cs) ← takeSeconds cs
  return (← TimeOfDay.of? hour minute second micro, cs)

def offsetOf? (sign : Int) (hours minutes : Nat) : Option Offset :=
  if h : hours < 24 ∧ minutes < 60 ∧ (sign = 1 ∨ sign = -1) then
    some (.ofMinutes (sign * (hours * 60 + minutes : Nat))
      (by rcases h with ⟨_, _, rfl | rfl⟩ <;> omega))
  else none

/-- Hours and minutes of an offset; a colon may stand between them, and nothing after them. -/
def readOffset (sign : Int) (cs : List Char) : Option Offset := do
  let (hours, cs) ← Text.takeNumber 2 cs
  let (minutes, cs) ← Text.takeNumber 2 ((skip (· == ':') cs).getD cs)
  if cs = [] then offsetOf? sign hours minutes else none

/-- What follows the clock time: nothing, `Z`, or a sign and an offset. -/
def readZone (cs : List Char) : Option (Option Zone) :=
  match cs with
  | [] => some none
  | ['Z'] | ['z'] => some (some (.fixed .utc))
  | '+' :: cs => (readOffset 1 cs).map fun o => some (.fixed o)
  | '-' :: cs => (readOffset (-1) cs).map fun o => some (.fixed o)
  | _ => none

/-- What follows the date: nothing, which means midnight, or a separator, a time and a zone. -/
def readClock (cs : List Char) : Option (TimeOfDay × Option Zone) :=
  if cs = [] then some (TimeOfDay.midnight, none)
  else do
    let cs ← skip (fun c => c == 'T' || c == 't' || c == ' ' || c == '_') cs
    let (time, cs) ← takeTime cs
    return (time, ← readZone cs)

/-- Whether the numbers name a day; the year 0 counts as a year here. -/
def isDay (year month day : Nat) : Bool :=
  decide (1 ≤ month ∧ month ≤ 12 ∧ 1 ≤ day ∧ (day : Int) ≤ Calendar.monthLength year month)

/-- A well-formed text whose year is 0 is out of range; any other fault makes it malformed. Texts
that spell Unix time are left out, and count as malformed. -/
def ofText (s : String) : Except TimestampFault Timestamp :=
  match takeDate s.toList with
  | none => .error .malformed
  | some ((year, month, day), rest) =>
    match readClock rest with
    | none => .error .malformed
    | some (time, zone) =>
      if isDay year month day then
        match Date.of? year month day with
        | none => .error .outOfRange
        | some date => .ok ⟨date, time, zone⟩
      else .error .malformed

/-- Beyond this size Unix time counts milliseconds and no longer seconds. -/
def secondsLimit : Nat := 20000000000

/-- Unix time as microseconds. -/
def unixMicros (n : Int) : Int :=
  if n.natAbs ≤ secondsLimit then n * 1000000 else n * 1000

/-- The timestamp, in universal time, that lies `micros` microseconds after Unix time `n`. -/
def afterUnix (n : Int) (micros : Nat) : Except TimestampFault Timestamp :=
  match ofWall? (Date.epoch.ordinal * TimeOfDay.microsPerDay + unixMicros n + micros)
      (some (.fixed .utc)) with
  | none => .error .outOfRange
  | some t => .ok t

/-- From this size on, whole numbers lie beyond the binary numbers of double precision: halfway
between the largest of these and the next power of two. It is 54 ones and 970 zeros in binary. -/
def numberLimit : Nat := (Nat.pow 2 54 - 1) * Nat.pow (Nat.pow 2 97) 10

/-- The timestamp, in universal time, that Unix time stands for. -/
def ofUnix (n : Int) : Except TimestampFault Timestamp :=
  if n.natAbs < numberLimit then afterUnix n 0 else .error .noNumber

/-- What a decimal number has beyond the whole number below it, in microseconds, a half rounded
up. -/
def decimalMicros (mantissa : Int) (places : Nat) : Nat :=
  let scale := Nat.pow 10 places
  ((mantissa % scale).toNat * 2000000 + scale) / (2 * scale)

/-- The timestamp that Unix time with a fraction stands for. A negative number, too, counts forward
from the whole number below it: -0.25 is 0.75 seconds after -1. -/
def ofUnixDecimal (mantissa : Int) (places : Nat) : Except TimestampFault Timestamp :=
  afterUnix (mantissa / Nat.pow 10 places) (decimalMicros mantissa places)

end Timestamp

end PhotoSearch
