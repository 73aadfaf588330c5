import PhotoSearch.Calendar.TypedDay

/-! Queries: a range of days, a single tag, or two tags joined by a connective. -/

namespace PhotoSearch

/-- The two days of a range as they were typed, and the text that they were typed in. -/
structure DayRange where
  text : String
  start : TypedDay
  finish : TypedDay
deriving DecidableEq

/-- A key and a value that are to be found together in one tag. -/
structure TagTerm where
  key : String
  value : String
deriving DecidableEq

inductive Connective where
  | and
  | or
deriving DecidableEq

def Connective.word : Connective → String
  | and => "AND"
  | or => "OR"

def Connective.apply : Connective → Bool → Bool → Bool
  | and => Bool.and
  | or => Bool.or

inductive TagFormula where
  | single (t : TagTerm)
  | combined (left right : TagTerm) (op : Connective)
deriving DecidableEq

inductive Query where
  | dates (r : DayRange)
  | tags (f : TagFormula)
deriving DecidableEq

def TagFormula.kind : TagFormula → String
  | single _ => "single_tag"
  | combined _ _ _ => "binary_tag"

def Query.kind : Query → String
  | dates _ => "date_range"
  | tags f => f.kind

/-- The terms of a formula, from left to right. -/
def TagFormula.terms : TagFormula → List TagTerm
  | single t => [t]
  | combined left right _ => [left, right]

end PhotoSearch
