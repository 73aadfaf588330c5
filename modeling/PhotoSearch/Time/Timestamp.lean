import PhotoSearch.Calendar.Date

/-!
Timestamps: a date and a time of day, with or without a zone, which has an offset from universal
time. A timestamp without a zone is naive, one with a zone aware.
-/

namespace PhotoSearch

structure TimeOfDay where
  hour : Nat
  minute : Nat
  second : Nat
  micro : Nat
  hour_lt : hour < 24
  minute_lt : minute < 60
  second_lt : second < 60
  micro_lt : micro < 1000000
deriving DecidableEq

namespace TimeOfDay

def of? (hour minute second micro : Nat) : Option TimeOfDay :=
  if h : hour < 24 ∧ minute < 60 ∧ second < 60 ∧ micro < 1000000 then
    some ⟨hour, minute, second, micro, h.1, h.2.1, h.2.2.1, h.2.2.2⟩
  else none

def midnight : TimeOfDay := ⟨0, 0, 0, 0, by decide, by decide, by decide, by decide⟩

/-- The last full second of a day. -/
def lastSecond : TimeOfDay := ⟨23, 59, 59, 0, by decide, by decide, by decide, by decide⟩

/-- Microseconds since midnight. -/
def micros (t : TimeOfDay) : Nat :=
  ((t.hour * 60 + t.minute) * 60 + t.second) * 1000000 + t.micro

def microsPerDay : Nat := 86400000000

theorem micros_lt (t : TimeOfDay) : t.micros < microsPerDay := by
  have := t.hour_lt; have := t.minute_lt; have := t.second_lt; have := t.micro_lt
  simp only [micros, microsPerDay]; omega

/-- The time that is `n` microseconds after midnight, whole days left out. -/
def ofMicros (n : Nat) : TimeOfDay where
  hour := n / 3600000000 % 24
  minute := n / 60000000 % 60
  second := n / 1000000 % 60
  micro := n % 1000000
  hour_lt := Nat.mod_lt _ (by decide)
  minute_lt := Nat.mod_lt _ (by decide)
  second_lt := Nat.mod_lt _ (by decide)
  micro_lt := Nat.mod_lt _ (by decide)

theorem micros_ofMicros {n : Nat} (h : n < microsPerDay) : (ofMicros n).micros = n := by
  simp only [microsPerDay] at h
  simp only [micros, ofMicros]; omega

/-- Hours, minutes and seconds, with colons between. -/
def clockText (t : TimeOfDay) : String :=
  Text.paddedString 2 t.hour ++ ":" ++ Text.paddedString 2 t.minute ++ ":" ++
    Text.paddedString 2 t.second

/-- The clock, and six digits of microseconds where there are any. -/
def text (t : TimeOfDay) : String :=
  if t.micro = 0 then t.clockText else t.clockText ++ "." ++ Text.paddedString 6 t.micro

end TimeOfDay

/-- An offset from universal time, in microseconds and shorter than a day. -/
structure Offset where
  micros : Int
  range : -86400000000 < micros ∧ micros < 86400000000
deriving DecidableEq

namespace Offset

def utc : Offset := ⟨0, by decide⟩

def ofMinutes (minutes : Int) (h : -1440 < minutes ∧ minutes < 1440) : Offset :=
  ⟨minutes * 60000000, by omega⟩

/-- The full seconds of an offset. -/
def seconds (o : Offset) : Int := o.micros / 1000000

/-- The hours and minutes of an offset; what is shorter than a minute is not shown. -/
def text (o : Offset) : String :=
  if o.seconds = 0 then "Z"
  else (if o.seconds < 0 then "-" else "+") ++
    Text.paddedString 2 (o.seconds.natAbs / 3600 : Nat) ++ ":" ++
    Text.paddedString 2 (o.seconds.natAbs / 60 % 60 : Nat)

end Offset

/-- Where an aware timestamp takes its offset from: from a zone that has no other, or from a region,
whose clocks are put forward and back. Of a region, this is the offset at the time in question; zones
of one name belong to one region. -/
inductive Zone where
  | fixed (offset : Offset)
  | region (name : String) (offset : Offset)
deriving DecidableEq

namespace Zone

def offset : Zone → Offset
  | fixed o => o
  | region _ o => o

/-- The zone at another time, when clocks of a region are at the offset `o`. -/
def shifted (o : Offset) : Zone → Zone
  | fixed own => fixed own
  | region name _ => region name o

end Zone

structure Timestamp where
  date : Date
  time : TimeOfDay
  zone : Option Zone
deriving DecidableEq

namespace Timestamp

def offset (t : Timestamp) : Option Offset := t.zone.map Zone.offset

def isNaive (t : Timestamp) : Bool := t.offset.isNone

/-- Wall-clock time in microseconds; the offset plays no part in it. -/
def wall (t : Timestamp) : Int := t.date.ordinal * TimeOfDay.microsPerDay + t.time.micros

/-- The instant meant by an aware timestamp: wall-clock time less the offset. -/
def instant (t : Timestamp) : Int := t.wall - t.offset.elim 0 Offset.micros

/-- The timestamp at a number of microseconds on the wall clock. -/
def ofWall? (n : Int) (zone : Option Zone) : Option Timestamp :=
  (Date.ofOrdinal? (n / TimeOfDay.microsPerDay)).map fun date =>
    ⟨date, TimeOfDay.ofMicros (n % TimeOfDay.microsPerDay).toNat, zone⟩

theorem wall_of_ofWall? {n : Int} {zone : Option Zone} {t : Timestamp}
    (h : ofWall? n zone = some t) : t.wall = n ∧ t.zone = zone := by
  obtain ⟨date, found, rfl⟩ := Option.map_eq_some_iff.1 h
  have day := Date.ordinal_of_ofOrdinal? found
  have inDay : (n % TimeOfDay.microsPerDay).toNat < TimeOfDay.microsPerDay := by
    simp only [TimeOfDay.microsPerDay]; omega
  refine ⟨?_, rfl⟩
  simp only [wall, day, TimeOfDay.micros_ofMicros inDay]
  simp only [TimeOfDay.microsPerDay]; omega

def text (t : Timestamp) : String :=
  t.date.text ++ "T" ++ t.time.text ++ t.offset.elim "" Offset.text

end Timestamp

end PhotoSearch
