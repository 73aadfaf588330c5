import PhotoSearch.Failure
import PhotoSearch.Session.Action
import PhotoSearch.Session.Store

/-! Sessions: named objects that live on from step to step, and the settings in force. -/

namespace PhotoSearch

/-- What a name can be bound to. Of a way to read typed days, what was said about strictness. -/
inductive Binding where
  | tagSet (r : Ref TagSet)
  | photo (r : Ref Photo)
  | album (r : Ref StoredAlbum)
  | library (r : Ref StoredLibrary)
  | outcome (r : Ref StoredOutcome)
  | mode (strict : Data)
  | nothing

def Binding.toData (store : Store) : Binding → Data
  | .tagSet r => .ofOption TagSet.toData (r.get? store.tagSets)
  | .photo r => .ofOption Photo.toData (r.get? store.photos)
  | .album r => .ofOption (fun a => (store.albumOf a).toData) (r.get? store.albums)
  | .library r => .ofOption (fun l => (store.libraryOf l).toData) (r.get? store.libraries)
  | .outcome r => .ofOption (fun o => (store.outcomeOf o).toData) (r.get? store.outcomes)
  | .mode strict => .object [("strict_dates", strict)]
  | .nothing => .null

namespace Binding

/-- The name of the kind of object that is bound. -/
def kindName : Binding → String
  | .tagSet _ => RecordKind.tagSet.name
  | .photo _ => RecordKind.photo.name
  | .album _ => RecordKind.album.name
  | .library _ => RecordKind.library.name
  | .outcome _ => RecordKind.outcome.name
  | .mode _ => "QueryEngine"
  | .nothing => Data.null.kindName

def photo? : Binding → Option (Ref Photo)
  | .photo r => some r
  | _ => none

def album? : Binding → Option (Ref StoredAlbum)
  | .album r => some r
  | _ => none

/-- Objects as items of a field, all of one kind. -/
def refs {α : Type} (select : Binding → Option (Ref α)) (field : String) (bs : List Binding) :
    Checked (List (Ref α)) :=
  Reading.items (fun p b => ((select b).map Checked.good).getD (Reading.issue .notRecord p))
    ((Place.root 0).field field) 0 bs

end Binding

/-- `clock` is the number of steps taken; it tells apart the photos that come in without an
identity. -/
structure Session where
  store : Store
  names : List (String × Binding)
  settings : Settings
  clock : Nat

namespace Session

def start (settings : Settings) : Session := ⟨.empty, [], settings, 0⟩

def find? (s : Session) (name : String) : Option Binding :=
  (s.names.find? fun b => b.1 == name).map Prod.snd

/-- What a name is bound to, seen as one kind of object. -/
def resolve {α : Type} (s : Session) (select : Binding → Option α) (name : String) :
    Except Failure α :=
  match (s.find? name).bind select with
  | some a => .ok a
  | none => .error (.unbound name)

def bindings (s : Session) (names : List String) : Except Failure (List Binding) :=
  names.mapM (s.resolve some)

def photoRef (s : Session) : String → Except Failure (Ref Photo) := s.resolve Binding.photo?

def photo (s : Session) : String → Except Failure Photo :=
  s.resolve fun
    | .photo r => r.get? s.store.photos
    | _ => none

def album (s : Session) : String → Except Failure (Ref StoredAlbum × StoredAlbum) :=
  s.resolve fun
    | .album r => (r.get? s.store.albums).map (r, ·)
    | _ => none

def library (s : Session) : String → Except Failure (Ref StoredLibrary × StoredLibrary) :=
  s.resolve fun
    | .library r => (r.get? s.store.libraries).map (r, ·)
    | _ => none

def outcome (s : Session) : String → Except Failure StoredOutcome :=
  s.resolve fun
    | .outcome r => r.get? s.store.outcomes
    | _ => none

/-- The way to read typed days of this name; without a name, the one by the settings in force. -/
def mode (s : Session) : Option String → Except Failure DateMode
  | none => .ok s.settings.dateMode
  | some name =>
    s.resolve (fun
      | .mode strict => some (DateMode.ofData strict)
      | _ => none) name

/-- What is to be searched or collected; of names it is not certain yet that they are photos. -/
def source (s : Session) : PhotoSource → Except Failure (List Binding)
  | .photos names => s.bindings names
  | .album name => (s.album name).map fun a => a.2.photos.map .photo
  | .library name => (s.library name).map fun l => (s.store.libraryPhotos l.2).map .photo
  | .outcome name => (s.outcome name).map fun o => o.photos.map .photo

/-- Every bound name with its object. -/
def dump (s : Session) : Data := .object (s.names.map fun b => (b.1, b.2.toData s.store))

end Session

end PhotoSearch
