import PhotoSearch.Record.Reading
import PhotoSearch.Record.Writing

/-! The kinds of records, by name. -/

namespace PhotoSearch

inductive RecordKind where
  | tag
  | tagSet
  | photo
  | album
  | library
  | typedDay
  | dayRange
  | term
  | formula
  | errorNote
  | outcome
deriving DecidableEq

namespace RecordKind

def all : List RecordKind :=
  [tag, tagSet, photo, album, library, typedDay, dayRange, term, formula, errorNote,
    outcome]

def name : RecordKind → String
  | tag => "Tag"
  | tagSet => "TagSet"
  | photo => "PhotoRecord"
  | album => "Album"
  | library => "Library"
  | typedDay => "CalendarDay"
  | dayRange => "DateRangeQuery"
  | term => "TagPredicate"
  | formula => "TagExpression"
  | errorNote => "SearchError"
  | outcome => "SearchOutcome"

def ofName? (name : String) : Option RecordKind := all.find? fun m => m.name == name

/-- Reads a record of this kind and writes it again, with its defaults filled in. -/
def normalize (m : RecordKind) (p : Place) (d : Data) : Checked Data :=
  match m with
  | tag => Tag.toData <$> Reading.tag p d
  | tagSet => TagSet.toData <$> Reading.tagSet p d
  | photo => Photo.toData <$> Reading.photo p d
  | album => Album.toData <$> Reading.album p d
  | library => Library.toData <$> Reading.library p d
  | typedDay => TypedDay.toData <$> Reading.typedDay p d
  | dayRange => DayRange.toData <$> Reading.dayRange p d
  | term => TagTerm.toData <$> Reading.term p d
  | formula => TagFormula.toData <$> Reading.formula p d
  | errorNote => ErrorNote.toData <$> Reading.errorNote p d
  | outcome => Outcome.toData <$> Reading.outcome p d

end RecordKind

/-- The code of data that should have been a record, where a record is read by itself. -/
def recordCode : String := "model_type"

end PhotoSearch
