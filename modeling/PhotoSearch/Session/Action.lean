import PhotoSearch.Data

/-! What can be asked of a session. Objects are spoken of by the names they are bound to. -/

namespace PhotoSearch

/-- Where photos are to be taken from. -/
inductive PhotoSource where
  | photos (names : List String)
  | album (name : String)
  | library (name : String)
  | outcome (name : String)

/-- Which photo is to be removed: that of a name, or that of an identity. -/
inductive PhotoChoice where
  | named (name : String)
  | withId (id : String)

/-- Questions and changes to the tags of a photo, or to a tag set by itself. -/
inductive TagAction where
  | add (key value : Data)
  | remove (key value : String)
  | values (key : String)
  | contains (key value : String)
  | size
  | list

inductive AlbumAction where
  | insert (photo : String)
  | remove (photo : PhotoChoice)
  | rename (name : String)
  | size
  | firstTime
  | lastTime

inductive LibraryAction where
  | insert (album : String)
  | find (name : String)
  | photos
  | freeName (base : Data)
  | albumFor (source : PhotoSource) (base : Data)

inductive Action where
  | makePhoto (data : Data)
  | makeTagSet (data : Data)
  | makeAlbum (name : Data) (photos : List String)
  | makeLibrary (owner : Data) (albums : List String)
  | makeMode (strict : Data)
  | onTags (holder : String) (action : TagAction)
  | onAlbum (album : String) (action : AlbumAction)
  | onLibrary (library : String) (action : LibraryAction)
  | search (raw : Data) (source : PhotoSource) (mode : Option String)
  | raise (outcome : String)
  | assign (assignments : List (String × Data))
  | dump (name : String)

/-- An action, and the name to bind what it makes to. -/
structure Step where
  action : Action
  saveAs : Option String

end PhotoSearch
