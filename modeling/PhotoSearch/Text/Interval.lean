/-! Sets of characters, given by inclusive intervals of code points. -/

namespace PhotoSearch.Text

abbrev Intervals := List (Nat × Nat)

namespace Intervals

/-- Whether the code point of a character lies in one of the intervals. -/
def has (intervals : Intervals) (c : Char) : Bool :=
  intervals.any fun interval => interval.1 ≤ c.toNat && c.toNat ≤ interval.2

theorem has_iff (intervals : Intervals) (c : Char) : intervals.has c = true ↔
    ∃ interval ∈ intervals, interval.1 ≤ c.toNat ∧ c.toNat ≤ interval.2 := by
  simp [has]

/-- Whether no interval is empty, and each lies behind the one before it with a gap between. -/
def ascending : Intervals → Bool
  | [] => true
  | [only] => only.1 ≤ only.2
  | one :: next :: more => one.1 ≤ one.2 && one.2 + 1 < next.1 && ascending (next :: more)

/-- How many code points there are in all. -/
def size : Intervals → Nat
  | [] => 0
  | one :: more => one.2 + 1 - one.1 + size more

end Intervals

end PhotoSearch.Text
