import PhotoSearch.Catalog.Library
import PhotoSearch.Catalog.Outcome

/-!
A store of objects that several others may share: an album refers to its photos and a library to
its albums, so that a change to one of these shows wherever it is referred to.
-/

namespace PhotoSearch

/-- The number of an object among those of its type. -/
structure Ref (α : Type) where
  index : Nat
deriving DecidableEq

def Ref.get? {α : Type} (r : Ref α) (table : List α) : Option α := table[r.index]?

def Ref.modify {α : Type} (r : Ref α) (f : α → α) (table : List α) : List α :=
  table.modify r.index f

/-- The number that the next object will have. -/
def Ref.next {α : Type} (table : List α) : Ref α := ⟨table.length⟩

@[simp] theorem Ref.get?_next {α : Type} (table : List α) (a : α) :
    (Ref.next table).get? (table ++ [a]) = some a := by simp [Ref.get?, Ref.next]

structure StoredAlbum where
  name : String
  photos : List (Ref Photo)

structure StoredLibrary where
  owner : String
  albums : List (Ref StoredAlbum)

structure StoredOutcome where
  query : String
  kind : Option String
  photos : List (Ref Photo)
  error : Option ErrorNote

structure Store where
  tagSets : List TagSet
  photos : List Photo
  albums : List StoredAlbum
  libraries : List StoredLibrary
  outcomes : List StoredOutcome

namespace Store

def empty : Store := ⟨[], [], [], [], []⟩

/-! ### Objects as values -/

def photosOf (s : Store) (refs : List (Ref Photo)) : List Photo :=
  refs.filterMap fun r => r.get? s.photos

def albumOf (s : Store) (a : StoredAlbum) : Album := ⟨a.name, s.photosOf a.photos⟩

def storedAlbums (s : Store) (l : StoredLibrary) : List StoredAlbum :=
  l.albums.filterMap fun r => r.get? s.albums

def libraryOf (s : Store) (l : StoredLibrary) : Library :=
  ⟨l.owner, (s.storedAlbums l).map s.albumOf⟩

def outcomeOf (s : Store) (o : StoredOutcome) : Outcome :=
  ⟨o.query, o.kind, s.photosOf o.photos, o.error⟩

/-! ### Adding objects -/

def putTagSet (s : Store) (t : TagSet) : Store × Ref TagSet :=
  ({ s with tagSets := s.tagSets ++ [t] }, Ref.next s.tagSets)

def putPhoto (s : Store) (p : Photo) : Store × Ref Photo :=
  ({ s with photos := s.photos ++ [p] }, Ref.next s.photos)

def putAlbum (s : Store) (a : StoredAlbum) : Store × Ref StoredAlbum :=
  ({ s with albums := s.albums ++ [a] }, Ref.next s.albums)

def putLibrary (s : Store) (l : StoredLibrary) : Store × Ref StoredLibrary :=
  ({ s with libraries := s.libraries ++ [l] }, Ref.next s.libraries)

def putOutcome (s : Store) (o : StoredOutcome) : Store × Ref StoredOutcome :=
  ({ s with outcomes := s.outcomes ++ [o] }, Ref.next s.outcomes)

/-! ### Changing objects in place -/

def setTagSet (s : Store) (r : Ref TagSet) (t : TagSet) : Store :=
  { s with tagSets := r.modify (fun _ => t) s.tagSets }

def setPhotoTags (s : Store) (r : Ref Photo) (t : TagSet) : Store :=
  { s with photos := r.modify (fun p => { p with tags := t }) s.photos }

def setAlbum (s : Store) (r : Ref StoredAlbum) (a : StoredAlbum) : Store :=
  { s with albums := r.modify (fun _ => a) s.albums }

def setLibrary (s : Store) (r : Ref StoredLibrary) (l : StoredLibrary) : Store :=
  { s with libraries := r.modify (fun _ => l) s.libraries }

/-! ### Photos by reference -/

def idOf? (s : Store) (r : Ref Photo) : Option PhotoId := (r.get? s.photos).map Photo.id

/-- The photos of a library, in the order of its albums, each identity once. -/
def libraryPhotos (s : Store) (l : StoredLibrary) : List (Ref Photo) :=
  firstOfEach s.idOf? ((s.storedAlbums l).flatMap StoredAlbum.photos)

/-- The album without the first photo of this identity; `none` if it has none. -/
def withoutPhoto? (s : Store) (a : StoredAlbum) (id : PhotoId) : Option StoredAlbum :=
  if a.photos.any fun r => s.idOf? r == some id then
    some { a with photos := a.photos.eraseP fun r => s.idOf? r == some id }
  else none

end Store

end PhotoSearch
