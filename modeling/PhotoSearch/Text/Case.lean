/-!
Upper case and folded case, as far as they consist of ASCII letters. A character beyond ASCII whose
other case is not ASCII either stays as it is.
-/

namespace PhotoSearch.Text

/-- The letters beyond ASCII that have ASCII letters for their upper case; some stand for two or
three joined letters. -/
def asciiCapitals : List (Char × String) :=
  [('\u00DF', "SS"), ('\u0131', "I"), ('\u017F', "S"), ('\uFB00', "FF"), ('\uFB01', "FI"),
    ('\uFB02', "FL"), ('\uFB03', "FFI"), ('\uFB04', "FFL"), ('\uFB05', "ST"), ('\uFB06', "ST")]

def upperChar (c : Char) : List Char :=
  match asciiCapitals.find? fun pair => pair.1 == c with
  | some pair => pair.2.toList
  | none => [c.toUpper]

def upper (s : String) : String := String.ofList (s.toList.flatMap upperChar)

/-- A character without its case. The dotless i keeps apart from i, the Kelvin sign and the capital
sharp s do not from the letters that they look like. -/
def foldChar (c : Char) : List Char :=
  if c = '\u0131' then [c]
  else if c = '\u212A' then ['k']
  else if c = '\u1E9E' then ['s', 's']
  else (upperChar c).map Char.toLower

def fold (s : String) : String := String.ofList (s.toList.flatMap foldChar)

end PhotoSearch.Text
