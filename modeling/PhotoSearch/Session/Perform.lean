import PhotoSearch.Record.Naming
import PhotoSearch.Search
import PhotoSearch.Session.Basic

/-! Performing single actions in a session. -/

namespace PhotoSearch

/-- What an action leads to: a store, settings, an answer, and an object that can be bound. The
answer is a failure where settings were changed only in part. -/
structure Effect where
  store : Store
  settings : Settings
  reply : Except Failure Data
  made : Option Binding

namespace Session

/-- The effect of an action that only answers. -/
def answer (s : Session) (reply : Data) : Effect := ⟨s.store, s.settings, .ok reply, none⟩

/-- The effect of an action that changes objects and answers. -/
def change (s : Session) (store : Store) (reply : Data) : Effect :=
  ⟨store, s.settings, .ok reply, none⟩

/-- The effect of an action that makes an object, which is also the answer. -/
def make (s : Session) (store : Store) (b : Binding) : Effect :=
  ⟨store, s.settings, .ok (b.toData store), some b⟩

/-- The tags of a photo or a tag set by itself, and the way to replace them. -/
def tagHolder (s : Session) : String → Except Failure (TagSet × (TagSet → Store)) :=
  s.resolve fun
    | .tagSet r => (r.get? s.store.tagSets).map (·, s.store.setTagSet r)
    | .photo r => (r.get? s.store.photos).map fun p => (p.tags, s.store.setPhotoTags r)
    | _ => none

def onTags (s : Session) (tags : TagSet) (replace : TagSet → Store) :
    TagAction → Except Failure Effect
  | .add key value =>
    match tags.add key value with
    | .ok (tags, tag) => .ok (s.change (replace tags) tag.toData)
    | .error r => .error (.ofTagRefusal r)
  | .remove key value =>
    match tags.remove? key value with
    | some tags => .ok (s.change (replace tags) (.bool true))
    | none => .ok (s.answer (.bool false))
  | .values key => .ok (s.answer (.list ((tags.values key).map .str)))
  | .contains key value => .ok (s.answer (.bool (tags.contains key value)))
  | .size => .ok (s.answer (.int tags.size))
  | .list => .ok (s.answer tags.toData)

def chosenId (s : Session) : PhotoChoice → Except Failure PhotoId
  | .named name => (s.photo name).map Photo.id
  | .withId id => .ok (.given id)

/-- An end of an album's span of time, as an answer. -/
def answerTime (s : Session) (time : Except MixedTimes (Option Timestamp)) :
    Except Failure Effect :=
  match time with
  | .ok t => .ok (s.answer (.ofOption Timestamp.toData t))
  | .error e => .error (.mixedTimes e)

def onAlbum (s : Session) (r : Ref StoredAlbum) (a : StoredAlbum) :
    AlbumAction → Except Failure Effect
  | .insert name => do
    let p ← s.photoRef name
    return s.change (s.store.setAlbum r { a with photos := a.photos ++ [p] }) .null
  | .remove choice => do
    let id ← s.chosenId choice
    match s.store.withoutPhoto? a id with
    | some a => return s.change (s.store.setAlbum r a) (.bool true)
    | none => return s.answer (.bool false)
  | .rename name =>
    match albumName name with
    | .ok name => .ok (s.change (s.store.setAlbum r { a with name }) .null)
    | .error e => .error (.emptyName e)
  | .size => .ok (s.answer (.int a.photos.length))
  | .firstTime => s.answerTime (s.store.albumOf a).firstTime
  | .lastTime => s.answerTime (s.store.albumOf a).lastTime

/-- A new album, if it can bear the name and all that it is to hold are photos. -/
def makeAlbum (s : Session) (name : Data) (items : List Binding) : Except Failure Effect := do
  let album ← (StoredAlbum.mk <$> Reading.albumName ((Place.root 0).field "name") name <*>
    Binding.refs Binding.photo? "photos" items).accept .album
  let (store, r) := s.store.putAlbum album
  return s.make store (.album r)

/-- A new library, if its owner is a text and all that it is to hold are albums. -/
def makeLibrary (s : Session) (owner : Data) (items : List Binding) : Except Failure Effect := do
  let library ← (StoredLibrary.mk <$> Reading.string ((Place.root 0).field "owner") owner <*>
    Binding.refs Binding.album? "albums" items).accept .library
  let (store, r) := s.store.putLibrary library
  return s.make store (.library r)

/-- The first album of a library that bears the name. -/
def albumNamed? (s : Session) (l : StoredLibrary) (name : String) : Option (Ref StoredAlbum) :=
  l.albums.find? fun r => ((r.get? s.store.albums).map StoredAlbum.name) == some name

def onLibrary (s : Session) (r : Ref StoredLibrary) (l : StoredLibrary) :
    LibraryAction → Except Failure Effect
  | .insert name => do
    let (a, album) ← s.album name
    if (s.albumNamed? l album.name).isSome then throw (.nameTaken ⟨album.name⟩)
    else return s.make (s.store.setLibrary r { l with albums := l.albums ++ [a] }) (.album a)
  | .find name =>
    .ok (s.make s.store (((s.albumNamed? l name).map .album).getD .nothing))
  | .photos =>
    .ok (s.answer (.list ((s.store.photosOf (s.store.libraryPhotos l)).map fun p =>
      .str p.id.text)))
  | .freeName base =>
    .ok (s.answer ((s.store.libraryOf l).nameFrom s.settings.resultsName base))
  | .albumFor source base => do
    s.makeAlbum ((s.store.libraryOf l).nameFrom s.settings.resultsName base) (← s.source source)

/-- The outcome of a search, which refers to the photos that were searched. -/
def searchStored (store : Store) (mode : DateMode) (raw : Data) (refs : List (Ref Photo)) :
    Except Overflow StoredOutcome :=
  (search mode raw (store.photosOf refs)).map fun o =>
    ⟨o.query, o.kind, refs.filter fun r => (r.get? store.photos).any (finds mode raw), o.error⟩

/-- What a query that was read looks at in a photo. -/
def memberFor : Query → String
  | .dates _ => "timestamp"
  | .tags _ => "tags"

/-- The outcome of a search among objects. One that is no photo is noticed only when it is looked
at, which a query that leads to an error does not come to. -/
def searchAmong (s : Session) (mode : DateMode) (raw : Data) (items : List Binding) :
    Except Failure StoredOutcome :=
  match items.find? (fun b => b.photo?.isNone), Query.read raw with
  | some b, .ok q => do
    let o ← (searchStored s.store mode raw []).mapError .overflow
    if o.error.isSome then return o else throw (.lacking b.kindName (memberFor q))
  | _, _ => (searchStored s.store mode raw (items.filterMap Binding.photo?)).mapError .overflow

def perform (s : Session) : Action → Except Failure Effect
  | .makePhoto data => do
    let (store, r) := s.store.putPhoto (← (Reading.photo (.root s.clock) data).accept .photo)
    return s.make store (.photo r)
  | .makeTagSet data => do
    let (store, r) := s.store.putTagSet (← (Reading.tagSet (.root s.clock) data).accept .tagSet)
    return s.make store (.tagSet r)
  | .makeAlbum name photos => do s.makeAlbum name (← s.bindings photos)
  | .makeLibrary owner albums => do s.makeLibrary owner (← s.bindings albums)
  | .makeMode strict => .ok (s.make s.store (.mode (s.settings.strictness strict)))
  | .onTags holder action => do
    let (tags, replace) ← s.tagHolder holder
    s.onTags tags replace action
  | .onAlbum name action => do
    let (r, a) ← s.album name
    s.onAlbum r a action
  | .onLibrary name action => do
    let (r, l) ← s.library name
    s.onLibrary r l action
  | .search raw source mode => do
    let (store, r) := s.store.putOutcome
      (← s.searchAmong (← s.mode mode) raw (← s.source source))
    return s.make store (.outcome r)
  | .raise name => do
    match (s.store.outcomeOf (← s.outcome name)).raised with
    | some r => throw (.raised r)
    | none => return s.answer .null
  | .assign assignments =>
    let (settings, result) := s.settings.assign assignments
    .ok ⟨s.store, settings, (result.mapError .settings).map fun _ => .null, none⟩
  | .dump name => do
    return s.answer ((← s.resolve some name).toData s.store)

end Session

end PhotoSearch
