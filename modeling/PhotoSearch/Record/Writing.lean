import PhotoSearch.Catalog.Library
import PhotoSearch.Catalog.Outcome
import PhotoSearch.Query.Basic

/-! Writing records as data, every field in its place. -/

namespace PhotoSearch

def Tag.toData (t : Tag) : Data := .object [("key", .str t.key), ("value", .str t.value)]

def TagSet.toData (s : TagSet) : Data := .list (s.tags.map Tag.toData)

def Timestamp.toData (t : Timestamp) : Data := .str t.text

def Photo.toData (p : Photo) : Data := .object
  [("id", .str p.id.text), ("timestamp", p.timestamp.toData), ("tags", p.tags.toData),
    ("path", .ofOptionalString p.path), ("caption", .ofOptionalString p.caption)]

def Photo.listToData (photos : List Photo) : Data := .list (photos.map Photo.toData)

def Album.toData (a : Album) : Data := .object
  [("name", .str a.name), ("photos", Photo.listToData a.photos)]

def Library.toData (l : Library) : Data := .object
  [("owner", .str l.owner), ("albums", .list (l.albums.map Album.toData))]

def TypedDay.toData (d : TypedDay) : Data := .object
  [("month", .int d.month), ("day", .int d.day), ("year", .int d.year)]

def DayRange.toData (r : DayRange) : Data := .object
  [("kind", .str (Query.dates r).kind), ("text", .str r.text), ("start", r.start.toData),
    ("end", r.finish.toData)]

def TagTerm.toData (p : TagTerm) : Data := .object
  [("kind", .str (TagFormula.single p).kind), ("key", .str p.key), ("value", .str p.value)]

def TagFormula.toData (q : TagFormula) : Data :=
  match q with
  | single p => p.toData
  | combined left right op => .object
    [("kind", .str q.kind), ("left", left.toData), ("right", right.toData),
      ("op", .str op.word)]

def Query.toData : Query → Data
  | dates r => r.toData
  | tags q => q.toData

def ErrorNote.toData (e : ErrorNote) : Data := .object
  [("code", .str e.code), ("message", .str e.message)]

def Outcome.toData (o : Outcome) : Data := .object
  [("query", .str o.query), ("kind", .ofOptionalString o.kind),
    ("photos", Photo.listToData o.photos), ("error", .ofOption ErrorNote.toData o.error)]

end PhotoSearch
