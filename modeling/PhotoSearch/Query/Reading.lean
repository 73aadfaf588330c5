import PhotoSearch.Query.Basic
import PhotoSearch.Query.Error

/-!
Reading queries. A word is a run of ASCII letters, digits and underscores. The three shapes are
`DD/DD/DDDD-DD/DD/DDDD` in digits, `word=word`, and two of the latter around ` AND ` or ` OR `.
-/

namespace PhotoSearch

def isWordChar (c : Char) : Bool := c.isAlphanum || c == '_'

def IsWord (cs : List Char) : Prop := cs ≠ [] ∧ ∀ c ∈ cs, isWordChar c = true

instance (cs : List Char) : Decidable (IsWord cs) := inferInstanceAs (Decidable (_ ∧ _))

/-- Two digits, two digits and four digits, with slashes between. -/
def TypedDay.ofChars? : List Char → Option TypedDay
  | [m₁, m₂, s₁, d₁, d₂, s₂, y₁, y₂, y₃, y₄] =>
    if s₁ = '/' ∧ s₂ = '/' ∧ [m₁, m₂, d₁, d₂, y₁, y₂, y₃, y₄].all Char.isDigit then
      some ⟨Text.digitsValue [m₁, m₂], Text.digitsValue [d₁, d₂],
        Text.digitsValue [y₁, y₂, y₃, y₄]⟩
    else none
  | _ => none

theorem TypedDay.length_of_ofChars? {cs : List Char} {d : TypedDay} (h : ofChars? cs = some d) :
    cs.length = 10 := by
  unfold ofChars? at h
  split at h
  · rfl
  · cases h

/-- Two typed days of ten characters, with a hyphen between. -/
def DayRange.ofText? (s : String) : Option DayRange :=
  match s.toList.drop 10 with
  | '-' :: rest => do
    return ⟨s, ← TypedDay.ofChars? (s.toList.take 10), ← TypedDay.ofChars? rest⟩
  | _ => none

/-- Two words with an equals sign between. -/
def TagTerm.ofChars? (cs : List Char) : Option TagTerm :=
  let key := cs.takeWhile (· ≠ '=')
  match cs.dropWhile (· ≠ '=') with
  | _ :: value =>
    if IsWord key ∧ IsWord value then some ⟨String.ofList key, String.ofList value⟩ else none
  | [] => none

def Connective.ofChars? (cs : List Char) : Option Connective :=
  if cs = Connective.and.word.toList then some .and
  else if cs = Connective.or.word.toList then some .or
  else none

/-- The text before the first space and the text after it. -/
def splitSpace (cs : List Char) : Option (List Char × List Char) :=
  match cs.dropWhile (· ≠ ' ') with
  | _ :: rest => some (cs.takeWhile (· ≠ ' '), rest)
  | [] => none

/-- A term, or two of them with a connective between, each set off by one space. -/
def TagFormula.ofChars? (cs : List Char) : Option TagFormula :=
  match splitSpace cs with
  | none => (TagTerm.ofChars? cs).map single
  | some (left, rest) => do
    let (op, right) ← splitSpace rest
    return combined (← TagTerm.ofChars? left) (← TagTerm.ofChars? right) (← Connective.ofChars? op)

/-- The query that a text is, if it has one of the shapes. -/
def Query.ofText? (s : String) : Option Query :=
  ((DayRange.ofText? s).map dates).or ((TagFormula.ofChars? s.toList).map tags)

/-- The query that raw input is. -/
def Query.read (raw : Data) : Except QueryError Query :=
  match raw with
  | .str s =>
    if s = "" then .error .emptyText
    else match ofText? s with
      | some q => .ok q
      | none => .error (.unrecognized s)
  | _ => .error (.notText raw)

/-- The range of days that raw input is. -/
def DayRange.read (raw : Data) : Except QueryError DayRange :=
  match raw with
  | .str s =>
    match ofText? s with
    | some r => .ok r
    | none => .error (.notDayRange raw)
  | _ => .error (.notDayRange raw)

end PhotoSearch
