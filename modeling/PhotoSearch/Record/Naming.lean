import PhotoSearch.Catalog.Library
import PhotoSearch.Record.Reading

/-! Albums for results whose name is asked for by data. -/

namespace PhotoSearch

/-- The name for a new album: a free one made from a text, the usual one where the base is vacant.
A base that is neither is no name that an album could bear, and comes back as it is. -/
def Library.nameFrom (l : Library) (usual : String) (base : Data) : Data :=
  match base with
  | .str text => .str (l.freeName usual (some text))
  | base => if base.isVacant then .str (l.freeName usual none) else base

/-- A new album for results, if what it is to be called is a name. -/
def Library.albumFrom (l : Library) (usual : String) (photos : List Photo) (base : Data) :
    Checked Album :=
  (Album.mk · photos) <$>
    Reading.albumName ((Place.root 0).field "name") (l.nameFrom usual base)

end PhotoSearch
