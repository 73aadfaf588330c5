import PhotoSearch.Text.Interval

/-! Blank characters, and stripping them from both ends of a text. -/

namespace PhotoSearch.Text

/-- The code points that count as white space. -/
def blankIntervals : Intervals :=
  [(0x0009, 0x000D), (0x001C, 0x0020), (0x0085, 0x0085), (0x00A0, 0x00A0), (0x1680, 0x1680),
   (0x2000, 0x200A), (0x2028, 0x2029), (0x202F, 0x202F), (0x205F, 0x205F), (0x3000, 0x3000)]

def isBlank (c : Char) : Bool := blankIntervals.has c

theorem isBlank_iff (c : Char) : isBlank c = true ↔
    ∃ interval ∈ blankIntervals, interval.1 ≤ c.toNat ∧ c.toNat ≤ interval.2 :=
  blankIntervals.has_iff c

example : blankIntervals.ascending = true ∧ blankIntervals.size = 29 := by decide

/-- The text without the blanks at its two ends. -/
def stripChars (cs : List Char) : List Char :=
  ((cs.dropWhile isBlank).reverse.dropWhile isBlank).reverse

def strip (s : String) : String := String.ofList (stripChars s.toList)

end PhotoSearch.Text
