import PhotoSearch.Proofs.Query.Resolution
import PhotoSearch.Proofs.Query.Spelling

/-!
Days as they are written and as they are read. What is written for a day, whatever the size and sign
of its numbers, can be told apart from what follows it, so one text is written for one day only: a
range is read from the texts of two days exactly when these are short, and then as these two, and a
message that names days determines them.
-/

namespace PhotoSearch

/-! ### Numbers in front of a text -/

namespace Text

/-- The number that a text begins with, by its sign and its digits, and the text behind them. -/
def readNumber : List Char → Int × List Char
  | '-' :: cs => (-(digitsValue (cs.takeWhile Char.isDigit) : Int), cs.dropWhile Char.isDigit)
  | cs => (digitsValue (cs.takeWhile Char.isDigit), cs.dropWhile Char.isDigit)

theorem readNumber_of_ne {c : Char} (h : c ≠ '-') (cs : List Char) : readNumber (c :: cs) =
    ((digitsValue ((c :: cs).takeWhile Char.isDigit) : Int), (c :: cs).dropWhile Char.isDigit) := by
  unfold readNumber
  split
  · rename_i same
    exact absurd (List.cons.inj same).1 h
  · rfl

variable {c : Char}

theorem takeWhile_zeroFill_append (hc : c.isDigit = false) (width n : Nat) (rest : List Char) :
    (zeroFill width (numeral n) ++ c :: rest).takeWhile Char.isDigit =
      zeroFill width (numeral n) := by
  rw [List.takeWhile_append_of_pos fun d hd => isDigit_of_mem_zeroFill hd,
    List.takeWhile_cons_of_neg (by simp [hc]), List.append_nil]

theorem dropWhile_zeroFill_append (hc : c.isDigit = false) (width n : Nat) (rest : List Char) :
    (zeroFill width (numeral n) ++ c :: rest).dropWhile Char.isDigit = c :: rest := by
  rw [List.dropWhile_append_of_pos fun d hd => isDigit_of_mem_zeroFill hd,
    List.dropWhile_cons_of_neg (by simp [hc])]

theorem exists_zeroFill_eq_cons (width n : Nat) :
    ∃ d ds, zeroFill width (numeral n) = d :: ds ∧ d.isDigit = true := by
  have some_digit : zeroFill width (numeral n) ≠ [] :=
    List.append_ne_nil_of_right_ne_nil _ Nat.toDigits_ne_nil
  obtain ⟨d, ds, shape⟩ := List.exists_cons_of_ne_nil some_digit
  exact ⟨d, ds, shape, isDigit_of_mem_zeroFill (shape ▸ List.mem_cons_self)⟩

/-- What a number is written as is read back as that number, whatever follows that is no digit. -/
theorem readNumber_padded_append (hc : c.isDigit = false) (width : Nat) (n : Int)
    (rest : List Char) : readNumber (padded width n ++ c :: rest) = (n, c :: rest) := by
  cases n with
  | ofNat n =>
    obtain ⟨d, ds, shape, digit⟩ := exists_zeroFill_eq_cons width n
    have unsigned : d ≠ '-' := by
      rintro rfl
      cases digit
    have read := readNumber_of_ne unsigned (ds ++ c :: rest)
    rw [← List.cons_append, ← shape, takeWhile_zeroFill_append hc, dropWhile_zeroFill_append hc,
      digitsValue_zeroFill, digitsValue_numeral] at read
    rw [Int.ofNat_eq_natCast, padded_natCast]
    exact read
  | negSucc n =>
    have signed : padded width (Int.negSucc n) = '-' :: zeroFill (width - 1) (numeral (n + 1)) := by
      rw [padded, if_pos (Int.negSucc_lt_zero n), Int.natAbs_negSucc]
    rw [signed, List.cons_append, readNumber, takeWhile_zeroFill_append hc,
      dropWhile_zeroFill_append hc, digitsValue_zeroFill, digitsValue_numeral]
    rfl

theorem padded_append_inj {c c' : Char} (hc : c.isDigit = false) (hc' : c'.isDigit = false)
    {width width' : Nat} {n n' : Int} {rest rest' : List Char}
    (h : padded width n ++ c :: rest = padded width' n' ++ c' :: rest') :
    n = n' ∧ c :: rest = c' :: rest' := by
  have read := congrArg readNumber h
  rw [readNumber_padded_append hc, readNumber_padded_append hc'] at read
  exact Prod.mk.inj read

/-- A text that begins with a character that is no digit. -/
def EndsNumber (s : String) : Prop := ∃ c rest, s.toList = c :: rest ∧ c.isDigit = false

theorem EndsNumber.append {s : String} (h : EndsNumber s) (t : String) : EndsNumber (s ++ t) := by
  obtain ⟨c, rest, chars, hc⟩ := h
  exact ⟨c, rest ++ t.toList, by rw [String.toList_append, chars, List.cons_append], hc⟩

end Text

/-! ### Days -/

namespace TypedDay

/-- The text of a day is over where a character comes that is no digit. -/
theorem textChars_append_inj {c c' : Char} (hc : c.isDigit = false) (hc' : c'.isDigit = false)
    {d d' : TypedDay} {rest rest' : List Char}
    (h : d.textChars ++ c :: rest = d'.textChars ++ c' :: rest') :
    d = d' ∧ c :: rest = c' :: rest' := by
  have slash : '/'.isDigit = false := by decide
  simp only [textChars, List.append_assoc, List.cons_append] at h
  obtain ⟨month, h⟩ := Text.padded_append_inj slash slash h
  obtain ⟨day, h⟩ := Text.padded_append_inj slash slash (List.cons.inj h).2
  obtain ⟨year, behind⟩ := Text.padded_append_inj hc hc' (List.cons.inj h).2
  obtain ⟨m, d, y⟩ := d
  obtain ⟨m', d', y'⟩ := d'
  cases month
  cases day
  cases year
  exact ⟨rfl, behind⟩

theorem text_append_inj {d d' : TypedDay} {s s' : String} (h : d.text ++ s = d'.text ++ s')
    (hs : Text.EndsNumber s) (hs' : Text.EndsNumber s') : d = d' ∧ s = s' := by
  obtain ⟨c, rest, chars, hc⟩ := hs
  obtain ⟨c', rest', chars', hc'⟩ := hs'
  have whole := congrArg String.toList h
  simp only [text, String.toList_append, String.toList_ofList, chars, chars'] at whole
  obtain ⟨day, behind⟩ := textChars_append_inj hc hc' whole
  exact ⟨day, String.toList_inj.1 (by rw [chars, chars', behind])⟩

theorem text_injective : Function.Injective text := by
  intro d d' h
  have blank : Text.EndsNumber " " := ⟨_, _, rfl, rfl⟩
  exact (text_append_inj (congrArg (· ++ " ") h) blank blank).1

/-- A minus sign counts among the characters that a number is filled up to. -/
example : text ⟨-1, 2, -34⟩ = "-1/02/-034" := by decide

/-- A day is written in the very digits that it was read from. -/
theorem Spells.textChars_eq {d : TypedDay} {cs : List Char} (h : d.Spells cs) :
    d.textChars = cs := by
  obtain ⟨month, day, year⟩ := h
  rw [textChars, Text.IsDigits.padded_digitsValue (by decide) month,
    Text.IsDigits.padded_digitsValue (by decide) day,
    Text.IsDigits.padded_digitsValue (by decide) year]

end TypedDay

namespace DayLabel

theorem text_append_inj {l l' : DayLabel} {s s' : String} (h : l.text ++ s = l'.text ++ s')
    (hs : Text.EndsNumber s) (hs' : Text.EndsNumber s') : l = l' ∧ s = s' := by
  obtain ⟨day, behind⟩ := TypedDay.text_append_inj h hs hs'
  exact ⟨DayLabel.ext day, behind⟩

theorem text_injective : Function.Injective text :=
  fun _ _ h => DayLabel.ext (TypedDay.text_injective h)

end DayLabel

/-! ### Ranges -/

namespace DayRange

theorem typedText_inj {a b a' b' : TypedDay} (h : typedText a b = typedText a' b') :
    a = a' ∧ b = b' := by
  have hyphen : Text.EndsNumber "-" := ⟨_, _, rfl, rfl⟩
  simp only [typedText, String.append_assoc] at h
  obtain ⟨start, behind⟩ := TypedDay.text_append_inj h (hyphen.append _) (hyphen.append _)
  exact ⟨start, TypedDay.text_injective ((String.append_right_inj _).1 behind)⟩

/-- The days that a text was read as are written as that text. -/
theorem Spells.typedText_eq {r : DayRange} {s : String} (h : r.Spells s) :
    typedText r.start r.finish = s := by
  obtain ⟨-, first, last, shape, hs, hf⟩ := h
  rw [← String.toList_inj, shape, ← hs.textChars_eq, ← hf.textChars_eq]
  simp [typedText, TypedDay.text]

theorem read_eq_ok_iff {raw : Data} {r : DayRange} :
    read raw = .ok r ↔ ∃ s, raw = .str s ∧ r.Spells s := by
  cases raw with
  | str s =>
    simp only [Data.str.injEq, exists_eq_left', ← ofText?_eq_some_iff, read]
    cases ofText? s <;> simp
  | _ => simp [read]

/-- From the texts of two days a range is read exactly when both are short, and then of these two. -/
theorem read_typedText_eq_ok_iff {a b : TypedDay} {r : DayRange} :
    read (.str (typedText a b)) = .ok r ↔
      (a.IsShort ∧ b.IsShort) ∧ r = ⟨typedText a b, a, b⟩ := by
  simp only [read_eq_ok_iff, Data.str.injEq, exists_eq_left']
  constructor
  · intro spelled
    obtain ⟨rfl, rfl⟩ := typedText_inj spelled.typedText_eq
    obtain ⟨text, first, last, -, hs, hf⟩ := spelled
    exact ⟨⟨hs.isShort, hf.isShort⟩, by rw [← text]⟩
  · rintro ⟨⟨ha, hb⟩, rfl⟩
    exact spells_typedText ha hb

end DayRange

/-! ### Messages -/

namespace QueryError

/-- The days that an error names. -/
def days : QueryError → List TypedDay
  | notCalendarDate l | outsideCalendar l => [l.day]
  | reversed s f => [s.day, f.day]
  | _ => []

theorem message_reversed (s f : DayLabel) : (reversed s f).message =
    "Start date " ++ (s.text ++ (" is after end date " ++ f.text)) := by
  dsimp only [message]
  rw [String.append_assoc, String.append_assoc]

theorem message_reversed_ne {s f l : DayLabel} {behind : String} :
    (reversed s f).message ≠ l.text ++ behind := by
  intro same
  have chars := congrArg String.toList same
  simp only [message_reversed, DayLabel.text, TypedDay.text, TypedDay.textChars, String.toList_append,
    String.toList_ofList, List.append_assoc, List.cons_append] at chars
  -- behind the number that a text begins with, a slash is no letter
  have read := congrArg (fun cs => (Text.readNumber cs).2.head?) chars
  rw [Text.readNumber_padded_append (by decide)] at read
  cases read

theorem errorClass_eq_badRange_iff {e : QueryError} : e.errorClass = .badRange ↔
    (∃ l, e = .notCalendarDate l) ∨ (∃ l, e = .outsideCalendar l) ∨ ∃ s f, e = .reversed s f := by
  cases e <;> simp [errorClass]

/-- The message of a bad range says which one it is, and of which days. -/
theorem eq_of_message_eq {e e' : QueryError} (h : e.errorClass = .badRange)
    (h' : e'.errorClass = .badRange) (same : e.message = e'.message) : e = e' := by
  have unreal : Text.EndsNumber " is not a calendar date" := ⟨_, _, rfl, rfl⟩
  have outside : Text.EndsNumber " is outside the supported calendar" := ⟨_, _, rfl, rfl⟩
  have after : Text.EndsNumber " is after end date " := ⟨_, _, rfl, rfl⟩
  have differ : " is not a calendar date" ≠ " is outside the supported calendar" := by decide
  rw [errorClass_eq_badRange_iff] at h h'
  rcases h with ⟨l, rfl⟩ | ⟨l, rfl⟩ | ⟨s, f, rfl⟩ <;>
    rcases h' with ⟨l', rfl⟩ | ⟨l', rfl⟩ | ⟨s', f', rfl⟩
  · rw [(DayLabel.text_append_inj same unreal unreal).1]
  · exact absurd (DayLabel.text_append_inj same unreal outside).2 differ
  · exact absurd same.symm message_reversed_ne
  · exact absurd (DayLabel.text_append_inj same outside unreal).2 differ.symm
  · rw [(DayLabel.text_append_inj same outside outside).1]
  · exact absurd same.symm message_reversed_ne
  · exact absurd same message_reversed_ne
  · exact absurd same message_reversed_ne
  · simp only [message_reversed, String.append_right_inj] at same
    obtain ⟨start, behind⟩ := DayLabel.text_append_inj same (after.append _) (after.append _)
    rw [start, DayLabel.text_injective ((String.append_right_inj _).1 behind)]

end QueryError

/-- What is wrong with a day names that day. -/
theorem TypedDay.days_of_resolve {d : TypedDay} {mode : DateMode} {e : QueryError}
    (h : d.resolve mode = .error (.query e)) : e.days = [d] := by
  obtain ⟨l, rfl, rfl | rfl⟩ := resolve_error_cases h <;> rfl

/-- What is wrong with a range names its first day, its last day, or one after the other. -/
theorem DayRange.days_of_resolve {r : DayRange} {mode : DateMode} {e : QueryError}
    (h : r.resolve mode = .error (.query e)) :
    e.days = [r.start] ∨ e.days = [r.finish] ∨ e.days = [r.start, r.finish] := by
  rcases resolve_error_cases h with start | finish | ⟨s, f, hs, hf, rfl⟩
  · exact .inl (TypedDay.days_of_resolve start)
  · exact .inr (.inl (TypedDay.days_of_resolve finish))
  · exact .inr (.inr (by rw [QueryError.days, hs, hf]))

/-- Writing days and reading a range undo each other. From what is written for two days, of any
numbers, a range is read exactly when both are short, and then it is the range of these two; what was
read as a range is what is written for its two days; different days are written differently, and the
label that stands for a day in messages is what is written for it; so the message about a bad day or a
bad range determines the days that were given. -/
theorem written_days_read_back :
    (∀ (a b : TypedDay) (r : DayRange),
      DayRange.read (.str (DayRange.typedText a b)) = .ok r ↔
        (a.IsShort ∧ b.IsShort) ∧ r = ⟨DayRange.typedText a b, a, b⟩) ∧
      (∀ (raw : Data) (r : DayRange), Query.read raw = .ok (.dates r) →
        raw = .str (DayRange.typedText r.start r.finish)) ∧
      Function.Injective TypedDay.text ∧
      (∀ (d : TypedDay) (l : DayLabel), d.label = .ok l → l.text = d.text) ∧
      (∀ (d d' : TypedDay) (mode mode' : DateMode) (e e' : QueryError),
        d.resolve mode = .error (.query e) → d'.resolve mode' = .error (.query e') →
          e.message = e'.message → d = d') ∧
      ∀ (r r' : DayRange) (mode mode' : DateMode) (e e' : QueryError),
        r.resolve mode = .error (.query e) → r'.resolve mode' = .error (.query e') →
          e.message = e'.message → e = e' ∧
            (e.days = [r.start] ∨ e.days = [r.finish] ∨ e.days = [r.start, r.finish]) := by
  refine ⟨fun a b r => DayRange.read_typedText_eq_ok_iff, ?_, TypedDay.text_injective, ?_, ?_, ?_⟩
  · intro raw r h
    obtain ⟨s, rfl, spelled⟩ := Query.read_eq_ok_iff.1 h
    rw [DayRange.Spells.typedText_eq spelled]
  · intro d l labelled
    rw [DayLabel.text, TypedDay.label_eq_ok_iff.1 labelled]
  · intro d d' mode mode' e e' h h' same
    have error := QueryError.eq_of_message_eq (TypedDay.errorClass_of_resolve h)
      (TypedDay.errorClass_of_resolve h') same
    have days := TypedDay.days_of_resolve h
    rw [error, TypedDay.days_of_resolve h'] at days
    exact (List.cons.inj days).1.symm
  · intro r r' mode mode' e e' h h' same
    exact ⟨QueryError.eq_of_message_eq (DayRange.errorClass_of_resolve h)
      (DayRange.errorClass_of_resolve h') same, DayRange.days_of_resolve h⟩

end PhotoSearch
