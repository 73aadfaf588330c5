import Mathlib
import PhotoSearch.Text.Digits

/-!
Runs of decimal digits of a fixed length. Such a run stands for a number below the power of ten that
its length allows, and a number below that power is written as such a run.
-/

namespace PhotoSearch.Text

/-- Exactly `width` digits, all of them ASCII. -/
def IsDigits (width : Nat) (cs : List Char) : Prop :=
  cs.length = width ∧ ∀ c ∈ cs, c.isDigit = true

theorem toNat_of_isDigit {c : Char} (h : c.isDigit = true) :
    '0'.toNat ≤ c.toNat ∧ c.toNat ≤ '9'.toNat := by
  simpa [Char.isDigit, UInt32.le_iff_toNat_le] using h

theorem toNat_sub_zero_lt {c : Char} (h : c.isDigit = true) : c.toNat - '0'.toNat < 10 := by
  have bounds := toNat_of_isDigit h
  have zero : '0'.toNat = 48 := rfl
  have nine : '9'.toNat = 57 := rfl
  omega

/-- One more digit in front adds as many powers of ten as the digits behind it are long. -/
theorem digitsValue_cons (c : Char) (cs : List Char) :
    digitsValue (c :: cs) = (c.toNat - '0'.toNat) * 10 ^ cs.length + digitsValue cs := by
  rw [digitsValue, digitsValue, Nat.ofDigitChars_cons, Nat.ofDigitChars_eq_ofDigitChars_zero]
  simp only [Nat.mul_zero, Nat.zero_add]
  rw [Nat.mul_comm]

theorem digitsValue_lt {cs : List Char} (h : ∀ c ∈ cs, c.isDigit = true) :
    digitsValue cs < 10 ^ cs.length := by
  induction cs with
  | nil => decide
  | cons c cs ih =>
    have head := toNat_sub_zero_lt (h c List.mem_cons_self)
    have tail := ih fun d hd => h d (List.mem_cons_of_mem _ hd)
    have upto : (c.toNat - '0'.toNat) * 10 ^ cs.length ≤ 9 * 10 ^ cs.length :=
      Nat.mul_le_mul_right _ (Nat.le_of_lt_succ head)
    rw [digitsValue_cons, List.length_cons, Nat.pow_succ]
    omega

theorem IsDigits.digitsValue_lt {width : Nat} {cs : List Char} (h : IsDigits width cs) :
    digitsValue cs < 10 ^ width := h.1 ▸ Text.digitsValue_lt h.2

/-- Runs of digits of one length stand for different numbers. -/
theorem eq_of_digitsValue_eq {cs ds : List Char} (hc : ∀ c ∈ cs, c.isDigit = true)
    (hd : ∀ d ∈ ds, d.isDigit = true) (same : cs.length = ds.length)
    (value : digitsValue cs = digitsValue ds) : cs = ds := by
  induction cs generalizing ds with
  | nil => exact (List.length_eq_zero_iff.1 same.symm).symm
  | cons c cs ih =>
    obtain ⟨d, ds, rfl⟩ := List.exists_cons_of_length_eq_add_one same.symm
    have length : cs.length = ds.length := Nat.succ.inj same
    rw [List.forall_mem_cons] at hc hd
    have below := digitsValue_lt hc.2
    have below' := digitsValue_lt hd.2
    rw [digitsValue_cons, digitsValue_cons, ← length] at value
    rw [← length] at below'
    -- what stands behind is below the power, so the first digits agree by division
    have first : c.toNat - '0'.toNat = d.toNat - '0'.toNat := by
      have quotient := congrArg (fun n => n / 10 ^ cs.length) value
      rwa [Nat.mul_comm, Nat.mul_add_div (Nat.pos_of_neZero _), Nat.div_eq_of_lt below,
        Nat.mul_comm, Nat.mul_add_div (Nat.pos_of_neZero _), Nat.div_eq_of_lt below'] at quotient
    have head : c = d := by
      have code := toNat_of_isDigit hc.1
      have code' := toNat_of_isDigit hd.1
      rw [← Char.toNat_inj]
      omega
    have tail : digitsValue cs = digitsValue ds := by
      rw [first] at value
      exact Nat.add_left_cancel value
    rw [head, ih hc.2 hd.2 length tail]

/-- A number that fits the width is written in exactly that many digits. -/
theorem isDigits_padded {width n : Nat} (hw : 0 < width) (hn : n < 10 ^ width) :
    IsDigits width (padded width n) := by
  have fits : (numeral n).length ≤ width := (Nat.length_toDigits_le_iff (by decide) hw).2 hn
  rw [padded_natCast]
  refine ⟨?_, fun c hc => isDigit_of_mem_zeroFill hc⟩
  rw [length_zeroFill, Nat.max_eq_left fits]

@[simp] theorem digitsValue_padded (width n : Nat) : digitsValue (padded width n) = n := by
  rw [padded_natCast, digitsValue_zeroFill, digitsValue_numeral]

/-- Writing what digits stand for, at their own length, gives the digits back. -/
theorem IsDigits.padded_digitsValue {width : Nat} {cs : List Char} (hw : 0 < width)
    (h : IsDigits width cs) : padded width (digitsValue cs) = cs := by
  obtain ⟨length, digits⟩ := isDigits_padded hw h.digitsValue_lt
  exact eq_of_digitsValue_eq digits h.2 (length.trans h.1.symm) (digitsValue_padded ..)

end PhotoSearch.Text
