import PhotoSearch.Proofs.Text.FixedWidth
import PhotoSearch.Time.Reading

/-!
Timestamps as they are written, read back. Every part of the text has a fixed width or begins with a
character that cannot belong to the part before it. The text shows neither the region that a zone
belongs to nor a part of a minute, but what is read has zones without either, and is read again from
its own text.
-/

namespace PhotoSearch

namespace Text

theorem toList_paddedString (width : Nat) (n : Int) :
    (paddedString width n).toList = padded width n := by
  rw [paddedString, String.toList_ofList]

/-- A number that fits the width is read back, and what follows it is left. -/
theorem takeNumber_padded {width n : Nat} (hw : 0 < width) (hn : n < 10 ^ width)
    (rest : List Char) : takeNumber width (padded width n ++ rest) = some (n, rest) := by
  have digits := isDigits_padded hw hn
  have all : (padded width n).all Char.isDigit = true := List.all_eq_true.2 digits.2
  have read := takeNumber_append rest all
  rwa [digits.1, digitsValue_padded] at read

theorem takeNumber_two {n : Nat} (h : n < 100) (rest : List Char) :
    takeNumber 2 (padded 2 n ++ rest) = some (n, rest) :=
  takeNumber_padded (by decide) h rest

end Text

namespace Zone

/-- The text of an offset shows the whole zone, which is fixed and a number of full minutes. -/
def IsShown : Zone → Prop
  | fixed o => 60000000 ∣ o.micros
  | region _ _ => False

instance (z : Zone) : Decidable z.IsShown := by
  cases z <;> unfold IsShown <;> infer_instance

theorem isShown_iff {z : Zone} : z.IsShown ↔ ∃ m h, z = .fixed (.ofMinutes m h) := by
  cases z with
  | fixed o =>
    constructor
    · rintro ⟨m, micros⟩
      have range := o.range
      have h : -1440 < m ∧ m < 1440 := by omega
      refine ⟨m, h, ?_⟩
      cases o
      simpa [Offset.ofMinutes, mul_comm] using micros
    · rintro ⟨m, h, same⟩
      cases same
      exact ⟨m, mul_comm m 60000000⟩
  | region name o => simp [IsShown]

end Zone

namespace Timestamp

/-- The text of a timestamp shows its whole zone, if there is one. -/
def IsShown (t : Timestamp) : Prop := ∀ z ∈ t.zone, z.IsShown

instance (t : Timestamp) : Decidable t.IsShown := inferInstanceAs (Decidable (∀ z ∈ t.zone, z.IsShown))

theorem skip_self (c : Char) (rest : List Char) : skip (· == c) (c :: rest) = some rest :=
  if_pos (beq_self_eq_true c)

/-! ### Dates -/

theorem takeDate_text (d : Date) (rest : List Char) :
    takeDate (d.text.toList ++ rest) =
      some ((d.year.toNat, d.month.toNat, d.day.toNat), rest) := by
  have hy := d.year_range
  have hm := d.month_range
  have hd := d.day_range
  have long := Calendar.monthLength_bounds d.year d.month
  have year : d.year = (d.year.toNat : Int) := by omega
  have month : d.month = (d.month.toNat : Int) := by omega
  have day : d.day = (d.day.toNat : Int) := by omega
  have chars : d.text.toList ++ rest = Text.padded 4 d.year.toNat ++ '-' ::
      (Text.padded 2 d.month.toNat ++ '-' :: (Text.padded 2 d.day.toNat ++ rest)) := by
    rw [← year, ← month, ← day]
    simp [Date.text, Text.toList_paddedString]
  have readYear := fun more => Text.takeNumber_padded (show 0 < 4 by decide)
    (show d.year.toNat < 10 ^ 4 by omega) more
  have readMonth := fun more => Text.takeNumber_two (show d.month.toNat < 100 by omega) more
  have readDay := fun more => Text.takeNumber_two (show d.day.toNat < 100 by omega) more
  rw [chars]
  simp only [takeDate, readYear, skip_self, readMonth, readDay, Option.bind_eq_bind, Option.bind_some]
  rfl

/-- The numbers of a date are those of a day. -/
theorem isDay_toNat (d : Date) : isDay d.year.toNat d.month.toNat d.day.toNat = true := by
  have hy := d.year_range
  have hm := d.month_range
  have hd := d.day_range
  have year : (d.year.toNat : Int) = d.year := by omega
  have month : (d.month.toNat : Int) = d.month := by omega
  rw [isDay, decide_eq_true_eq, year, month]
  omega

theorem of?_toNat (d : Date) :
    Date.of? d.year.toNat d.month.toNat d.day.toNat = some d := by
  have hy := d.year_range
  have hm := d.month_range
  have hd := d.day_range
  rw [Date.of?_eq_some_iff]
  omega

/-! ### Times of day -/

/-- What can follow a time of day: nothing, or a character that is neither a point nor a digit. -/
def EndsTime (cs : List Char) : Prop := ∀ c ∈ cs.head?, c ≠ '.' ∧ c.isDigit = false

theorem takeWhile_isDigit_append {digits rest : List Char} (h : ∀ c ∈ digits, c.isDigit = true)
    (ends : EndsTime rest) : (digits ++ rest).takeWhile Char.isDigit = digits := by
  rw [List.takeWhile_append_of_pos h]
  cases rest with
  | nil => simp
  | cons c more => simp [(ends c rfl).2]

theorem takeFraction_of_endsTime {cs : List Char} (h : EndsTime cs) :
    takeFraction cs = some (0, cs) := by
  unfold takeFraction
  split
  · exact absurd rfl (h '.' rfl).1
  · rfl

theorem takeFraction_padded {micro : Nat} (h : micro < 1000000) {rest : List Char}
    (ends : EndsTime rest) :
    takeFraction ('.' :: (Text.padded 6 micro ++ rest)) = some (micro, rest) := by
  have digits : Text.IsDigits 6 (Text.padded 6 micro) := Text.isDigits_padded (by decide) h
  have nonempty : Text.padded 6 micro ≠ [] := by
    intro empty
    have length := digits.1
    rw [empty] at length
    cases length
  have six : (Text.padded 6 micro ++ List.replicate 6 '0').take 6 = Text.padded 6 micro :=
    List.take_left' digits.1
  simp only [takeFraction, takeWhile_isDigit_append digits.2 ends, ne_eq, nonempty,
    not_false_eq_true, if_true, six, Text.digitsValue_padded, List.drop_left]

theorem of?_self (t : TimeOfDay) : TimeOfDay.of? t.hour t.minute t.second t.micro = some t :=
  dif_pos ⟨t.hour_lt, t.minute_lt, t.second_lt, t.micro_lt⟩

theorem takeSeconds_text (t : TimeOfDay) {fraction rest : List Char}
    (h : takeFraction (fraction ++ rest) = some (t.micro, rest)) :
    takeSeconds (':' :: (Text.padded 2 t.second ++ (fraction ++ rest))) =
      some ((t.second, t.micro), rest) := by
  have := t.second_lt
  have read := Text.takeNumber_two (show t.second < 100 by omega)
  simp [takeSeconds, read, h]

theorem takeTime_text (t : TimeOfDay) {rest : List Char} (ends : EndsTime rest) :
    takeTime (t.text.toList ++ rest) = some (t, rest) := by
  have := t.hour_lt
  have := t.minute_lt
  have readHour := Text.takeNumber_two (show t.hour < 100 by omega)
  have readMinute := Text.takeNumber_two (show t.minute < 100 by omega)
  have chars : ∃ fraction, takeFraction (fraction ++ rest) = some (t.micro, rest) ∧
      t.text.toList ++ rest = Text.padded 2 t.hour ++ ':' :: (Text.padded 2 t.minute ++
        ':' :: (Text.padded 2 t.second ++ (fraction ++ rest))) := by
    by_cases whole : t.micro = 0
    · refine ⟨[], ?_, ?_⟩
      · rw [List.nil_append, takeFraction_of_endsTime ends, whole]
      · simp [TimeOfDay.text, whole, TimeOfDay.clockText, Text.toList_paddedString]
    · refine ⟨'.' :: Text.padded 6 t.micro, ?_, ?_⟩
      · exact takeFraction_padded t.micro_lt ends
      · simp [TimeOfDay.text, whole, TimeOfDay.clockText, Text.toList_paddedString]
  obtain ⟨fraction, readFraction, chars⟩ := chars
  rw [chars]
  simp [takeTime, readHour, readMinute, skip_self, takeSeconds_text t readFraction, of?_self]

/-! ### Zones -/

/-- A sign and an amount of minutes are the offset that they were taken from. -/
theorem offsetOf?_natAbs {m : Int} (h : -1440 < m ∧ m < 1440) {sign : Int}
    (hs : sign = 1 ∨ sign = -1) (hm : m = sign * m.natAbs) :
    offsetOf? sign (m.natAbs / 60) (m.natAbs % 60) = some (.ofMinutes m h) := by
  have hours : m.natAbs / 60 < 24 := by omega
  have minutes : m.natAbs % 60 < 60 := Nat.mod_lt _ (by decide)
  have sum : m.natAbs / 60 * 60 + m.natAbs % 60 = m.natAbs := Nat.div_add_mod' _ _
  have same : sign * (m.natAbs / 60 * 60 + m.natAbs % 60 : Nat) = m := by rw [sum, ← hm]
  rw [offsetOf?, dif_pos ⟨hours, minutes, hs⟩, Option.some.injEq]
  simp only [same]

theorem readOffset_text {m : Int} (h : -1440 < m ∧ m < 1440) {sign : Int}
    (hs : sign = 1 ∨ sign = -1) (hm : m = sign * m.natAbs) :
    readOffset sign (Text.padded 2 (m.natAbs / 60 : Nat) ++
      ':' :: Text.padded 2 (m.natAbs % 60 : Nat)) = some (.ofMinutes m h) := by
  have hours := Text.takeNumber_two (show m.natAbs / 60 < 100 by omega)
  have minutes := Text.takeNumber_two (show m.natAbs % 60 < 100 by omega) []
  rw [List.append_nil] at minutes
  simp only [readOffset, hours, skip_self, minutes, Option.bind_eq_bind, Option.bind_some,
    Option.getD_some, if_true]
  exact offsetOf?_natAbs h hs hm

/-- The characters of a zone: none, or those of its offset. -/
def zoneChars (zone : Option Zone) : List Char :=
  ((zone.map Zone.offset).elim "" Offset.text).toList

theorem toList_text_offset (o : Offset) : o.text.toList =
    if o.seconds = 0 then ['Z']
    else (if o.seconds < 0 then '-' else '+') ::
      (Text.padded 2 (o.seconds.natAbs / 3600 : Nat) ++
        ':' :: Text.padded 2 (o.seconds.natAbs / 60 % 60 : Nat)) := by
  by_cases zero : o.seconds = 0
  · simp [Offset.text, zero]
  · by_cases negative : o.seconds < 0
    · simp [Offset.text, zero, negative, Text.toList_paddedString]
    · simp [Offset.text, zero, negative, Text.toList_paddedString]

theorem toList_text_ofMinutes {m : Int} (h : -1440 < m ∧ m < 1440) :
    (Offset.ofMinutes m h).text.toList =
      if m = 0 then ['Z']
      else (if m < 0 then '-' else '+') :: (Text.padded 2 (m.natAbs / 60 : Nat) ++
        ':' :: Text.padded 2 (m.natAbs % 60 : Nat)) := by
  have seconds : (Offset.ofMinutes m h).seconds = m * 60 := by
    simp only [Offset.seconds, Offset.ofMinutes]
    omega
  have hours : (m * 60).natAbs / 3600 = m.natAbs / 60 := by omega
  have minutes : (m * 60).natAbs / 60 % 60 = m.natAbs % 60 := by omega
  have zero : m * 60 = 0 ↔ m = 0 := by omega
  have negative : m * 60 < 0 ↔ m < 0 := by omega
  simp only [toList_text_offset, seconds, hours, minutes, zero, negative]

theorem endsTime_zoneChars (zone : Option Zone) : EndsTime (zoneChars zone) := by
  cases zone with
  | none =>
    intro c hc
    cases hc
  | some z =>
    rw [zoneChars, Option.map_some, Option.elim_some, toList_text_offset]
    split
    · intro c hc
      cases hc
      decide
    · split <;>
        · intro c hc
          cases hc
          decide

theorem readZone_zoneChars {zone : Option Zone} (shown : ∀ z ∈ zone, z.IsShown) :
    readZone (zoneChars zone) = some zone := by
  cases zone with
  | none => rfl
  | some z =>
    obtain ⟨m, h, rfl⟩ := Zone.isShown_iff.1 (shown z rfl)
    rw [zoneChars, Option.map_some, Option.elim_some, Zone.offset, toList_text_ofMinutes h]
    by_cases zero : m = 0
    · subst zero
      rfl
    · by_cases negative : m < 0
      · have read := readOffset_text h (.inr rfl) (by omega)
        simp only [zero, negative, if_true, if_false, readZone, read, Option.map_some]
      · have read := readOffset_text h (.inl rfl) (by omega)
        simp only [zero, negative, if_false, readZone, read, Option.map_some]

/-! ### Whole timestamps -/

theorem readClock_text (t : TimeOfDay) {zone : Option Zone} (shown : ∀ z ∈ zone, z.IsShown) :
    readClock ('T' :: (t.text.toList ++ zoneChars zone)) = some (t, zone) := by
  have separator : skip (fun c => c == 'T' || c == 't' || c == ' ' || c == '_')
      ('T' :: (t.text.toList ++ zoneChars zone)) = some (t.text.toList ++ zoneChars zone) :=
    rfl
  simp only [readClock, List.cons_ne_nil, if_false, separator,
    takeTime_text t (endsTime_zoneChars zone), readZone_zoneChars shown, Option.bind_eq_bind,
    Option.bind_some]
  rfl

/-- A timestamp is read from its own text, if that shows its zone. -/
theorem ofText_text {t : Timestamp} (shown : t.IsShown) : ofText t.text = .ok t := by
  have chars : t.text.toList =
      t.date.text.toList ++ 'T' :: (t.time.text.toList ++ zoneChars t.zone) := by
    simp [text, zoneChars, offset]
  simp only [ofText, chars, takeDate_text, readClock_text t.time shown, isDay_toNat, of?_toNat,
    if_true]

/-! ### What is read -/

theorem isShown_of_readOffset {sign : Int} {cs : List Char} {o : Offset}
    (h : readOffset sign cs = some o) : (Zone.fixed o).IsShown := by
  simp only [readOffset, Option.bind_eq_bind, Option.bind_eq_some_iff] at h
  obtain ⟨hours, -, minutes, -, read⟩ := h
  split at read
  · unfold offsetOf? at read
    split at read
    · cases read
      exact Zone.isShown_iff.2 ⟨_, _, rfl⟩
    · cases read
  · cases read

theorem isShown_of_readZone {cs : List Char} {zone : Option Zone} (h : readZone cs = some zone) :
    ∀ z ∈ zone, z.IsShown := by
  have utc : (Zone.fixed .utc).IsShown := by decide
  unfold readZone at h
  split at h
  · cases h
    simp
  · cases h
    simpa using utc
  · cases h
    simpa using utc
  · obtain ⟨o, read, rfl⟩ := Option.map_eq_some_iff.1 h
    simpa using isShown_of_readOffset read
  · obtain ⟨o, read, rfl⟩ := Option.map_eq_some_iff.1 h
    simpa using isShown_of_readOffset read
  · cases h

theorem isShown_of_readClock {cs : List Char} {time : TimeOfDay} {zone : Option Zone}
    (h : readClock cs = some (time, zone)) : ∀ z ∈ zone, z.IsShown := by
  unfold readClock at h
  split at h
  · cases h
    simp
  · simp only [Option.bind_eq_bind, Option.bind_eq_some_iff] at h
    obtain ⟨rest, -, ⟨t, rest'⟩, -, zone', read, same⟩ := h
    cases same
    exact isShown_of_readZone read

theorem isShown_of_ofText {s : String} {t : Timestamp} (h : ofText s = .ok t) : t.IsShown := by
  unfold ofText at h
  split at h
  · cases h
  · split at h
    · cases h
    · rename_i read
      split at h
      · split at h
        · cases h
        · cases h
          exact isShown_of_readClock read
      · cases h

theorem wall_of_afterUnix {n : Int} {micros : Nat} {t : Timestamp} (h : afterUnix n micros = .ok t) :
    t.wall = Date.epoch.ordinal * TimeOfDay.microsPerDay + unixMicros n + micros ∧
      t.zone = some (.fixed .utc) := by
  unfold afterUnix at h
  split at h
  · cases h
  · rename_i made
    cases h
    exact wall_of_ofWall? made

/-- Unix time is read as the instant that it stands for. -/
theorem instant_of_afterUnix {n : Int} {micros : Nat} {t : Timestamp}
    (h : afterUnix n micros = .ok t) :
    t.instant = Date.epoch.ordinal * TimeOfDay.microsPerDay + unixMicros n + micros := by
  obtain ⟨wall, zone⟩ := wall_of_afterUnix h
  simp [instant, wall, offset, zone, Zone.offset, Offset.utc]

theorem isShown_of_afterUnix {n : Int} {micros : Nat} {t : Timestamp}
    (h : afterUnix n micros = .ok t) : t.IsShown := by
  obtain ⟨-, zone⟩ := wall_of_afterUnix h
  have utc : (Zone.fixed .utc).IsShown := by decide
  simpa [IsShown, zone] using utc

theorem isShown_of_ofUnix {n : Int} {t : Timestamp} (h : ofUnix n = .ok t) : t.IsShown := by
  unfold ofUnix at h
  split at h
  · exact isShown_of_afterUnix h
  · cases h

theorem isShown_of_ofUnixDecimal {mantissa : Int} {places : Nat} {t : Timestamp}
    (h : ofUnixDecimal mantissa places = .ok t) : t.IsShown := isShown_of_afterUnix h

end Timestamp

end PhotoSearch
