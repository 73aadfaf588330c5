import PhotoSearch.Text.Digits
import PhotoSearch.Text.Printable

/-! Quoted literals, in which every text is shown on one line with visible characters only. -/

namespace PhotoSearch.Text

/-- Hexadecimal digits in lower case, filled with zeros up to a width. -/
def hexFilled (width n : Nat) : List Char := zeroFill width (Nat.toDigits 16 n)

/-- The escape of a code point: two, four or eight hexadecimal digits, the fewest that hold it. -/
def codeEscape (n : Nat) : List Char :=
  if n < 0x100 then '\\' :: 'x' :: hexFilled 2 n
  else if n < 0x10000 then '\\' :: 'u' :: hexFilled 4 n
  else '\\' :: 'U' :: hexFilled 8 n

def escapeChar (quote c : Char) : List Char :=
  if c = quote ∨ c = '\\' then ['\\', c]
  else if c = '\t' then ['\\', 't']
  else if c = '\n' then ['\\', 'n']
  else if c = '\r' then ['\\', 'r']
  else if isPrintable c then [c]
  else codeEscape c.toNat

/-- The double quote for a text with a single quote and no double one, else the single quote. -/
def quoteFor (cs : List Char) : Char :=
  if '\x27' ∈ cs ∧ '\x22' ∉ cs then '\x22' else '\x27'

def quotedChars (cs : List Char) : List Char :=
  quoteFor cs :: cs.flatMap (escapeChar (quoteFor cs)) ++ [quoteFor cs]

def quoted (s : String) : String := String.ofList (quotedChars s.toList)

end PhotoSearch.Text
