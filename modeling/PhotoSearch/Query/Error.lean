import PhotoSearch.Calendar.TypedDay
import PhotoSearch.Catalog.Tag
import PhotoSearch.Data

/-! What can be wrong with a query. -/

namespace PhotoSearch

/-- The classes that query errors fall into; `unknown` is that of a code that is none of theirs. -/
inductive ErrorClass where
  | malformed
  | badRange
  | badTerm
  | unknown
deriving DecidableEq

namespace ErrorClass

def code : ErrorClass → String
  | malformed => "malformed_query"
  | badRange => "invalid_range"
  | badTerm => "invalid_predicate"
  | unknown => "query_error"

def ofCode (code : String) : ErrorClass :=
  if code = malformed.code then malformed
  else if code = badRange.code then badRange
  else if code = badTerm.code then badTerm
  else unknown

@[simp] theorem ofCode_code (c : ErrorClass) : ofCode c.code = c := by cases c <;> decide

end ErrorClass

/-- A value by which nothing can be looked up. -/
structure LookupFault where
  kind : String
deriving DecidableEq

def LookupFault.message (e : LookupFault) : String := "unhashable type: " ++ Text.quoted e.kind

/-- The class of a code that is given as data. Lists and objects cannot be looked up. -/
def ErrorClass.ofData : Data → Except LookupFault ErrorClass
  | .str code => .ok (ofCode code)
  | .list items => .error ⟨(Data.list items).kindName⟩
  | .object fields => .error ⟨(Data.object fields).kindName⟩
  | _ => .ok unknown

inductive TagPart where
  | key
  | value
deriving DecidableEq

def TagPart.word : TagPart → String
  | key => "key"
  | value => "value"

inductive QueryError where
  | notText (raw : Data)
  | emptyText
  | unrecognized (text : String)
  | notDayRange (raw : Data)
  | notCalendarDate (day : DayLabel)
  | outsideCalendar (day : DayLabel)
  | reversed (start finish : DayLabel)
  | emptyPart (part : TagPart)
  | blankInPart (part : TagPart) (text : String)

namespace QueryError

def errorClass : QueryError → ErrorClass
  | notText _ | emptyText | unrecognized _ | notDayRange _ => .malformed
  | notCalendarDate _ | outsideCalendar _ | reversed _ _ => .badRange
  | emptyPart _ | blankInPart _ _ => .badTerm

def code (e : QueryError) : String := e.errorClass.code

def message : QueryError → String
  | notText raw => "Query must be text, got " ++ raw.kindName
  | emptyText => "Query is empty"
  | unrecognized text =>
    "Unrecognized query " ++ Text.quoted text ++
      "; use MM/DD/YYYY-MM/DD/YYYY, key=value, or key=value AND|OR key=value"
  | notDayRange raw => "Not a date range (expected MM/DD/YYYY-MM/DD/YYYY): " ++ raw.literal
  | notCalendarDate day => day.text ++ " is not a calendar date"
  | outsideCalendar day => day.text ++ " is outside the supported calendar"
  | reversed start finish => "Start date " ++ start.text ++ " is after end date " ++ finish.text
  | emptyPart part => "Tag " ++ part.word ++ " cannot be empty"
  | blankInPart part text =>
    "Tag " ++ part.word ++ " " ++ Text.quoted text ++ " cannot contain spaces"

end QueryError

end PhotoSearch
