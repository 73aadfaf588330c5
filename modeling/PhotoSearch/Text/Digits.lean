/-! Decimal numerals: writing a number with zeros up to a width, and reading digits back. -/

namespace PhotoSearch.Text

/-- The numeral of a natural number, without leading zeros. -/
def numeral (n : Nat) : List Char := Nat.toDigits 10 n

/-- Zeros in front of `cs` until it is `width` characters long. -/
def zeroFill (width : Nat) (cs : List Char) : List Char :=
  List.replicate (width - cs.length) '0' ++ cs

theorem length_zeroFill (width : Nat) (cs : List Char) :
    (zeroFill width cs).length = max width cs.length := by
  simp [zeroFill]; omega

/-- A numeral of at least `width` characters; a minus sign takes one of them. -/
def padded (width : Nat) (n : Int) : List Char :=
  if n < 0 then '-' :: zeroFill (width - 1) (numeral n.natAbs)
  else zeroFill width (numeral n.toNat)

theorem padded_natCast (width n : Nat) : padded width (n : Int) = zeroFill width (numeral n) := by
  simp [padded, Int.not_lt.2 (Int.natCast_nonneg n)]

/-- The most digits that a number of unknown size is written with. -/
def digitLimit : Nat := 4300

/-- Whether a number has few enough digits to be written; its sign does not count. -/
def IsWritable (n : Int) : Prop := (numeral n.natAbs).length ≤ digitLimit

instance (n : Int) : Decidable (IsWritable n) := inferInstanceAs (Decidable (_ ≤ _))

theorem length_numeral_le_iff {k : Nat} (n : Nat) (h : 0 < k) :
    (numeral n).length ≤ k ↔ n < Nat.pow 10 k := Nat.length_toDigits_le_iff (by decide) h

theorem isWritable_iff {n : Int} : IsWritable n ↔ n.natAbs < Nat.pow 10 digitLimit :=
  length_numeral_le_iff n.natAbs (by decide)

def paddedString (width : Nat) (n : Int) : String := String.ofList (padded width n)

/-- The numeral of a number, as text. -/
def decimal (n : Int) : String := paddedString 0 n

/-- The number that a run of decimal digits stands for. -/
def digitsValue (cs : List Char) : Nat := Nat.ofDigitChars 10 cs 0

theorem digitsValue_numeral (n : Nat) : digitsValue (numeral n) = n :=
  Nat.ofDigitChars_toDigits (by decide) (by decide)

/-- Zeros in front do not change what digits stand for. -/
theorem digitsValue_zeroFill (width : Nat) (cs : List Char) :
    digitsValue (zeroFill width cs) = digitsValue cs := by
  simp only [digitsValue, zeroFill]
  induction width - cs.length with
  | zero => rfl
  | succ k ih => rw [List.replicate_succ, List.cons_append, Nat.ofDigitChars_cons]; exact ih

theorem isDigit_of_mem_numeral {n : Nat} {c : Char} (h : c ∈ numeral n) : c.isDigit = true :=
  Nat.isDigit_of_mem_toDigits (by decide) (by decide) h

theorem isDigit_of_mem_zeroFill {width n : Nat} {c : Char} (h : c ∈ zeroFill width (numeral n)) :
    c.isDigit = true := by
  rcases List.mem_append.1 h with h | h
  · rw [List.eq_of_mem_replicate h]; decide
  · exact isDigit_of_mem_numeral h

/-- Reads exactly `count` digits and returns their value with what follows. -/
def takeNumber (count : Nat) (cs : List Char) : Option (Nat × List Char) :=
  if (cs.take count).length = count ∧ (cs.take count).all Char.isDigit then
    some (digitsValue (cs.take count), cs.drop count)
  else none

theorem takeNumber_append {digits : List Char} (rest : List Char)
    (h : digits.all Char.isDigit = true) :
    takeNumber digits.length (digits ++ rest) = some (digitsValue digits, rest) := by
  simp [takeNumber, h]

end PhotoSearch.Text
