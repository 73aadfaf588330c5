import PhotoSearch.Catalog.Album
import PhotoSearch.Text.Quoted

/-! Libraries: the albums of one owner. -/

namespace PhotoSearch

structure Library where
  owner : String
  albums : List Album
deriving DecidableEq

/-- A library was to hold a second album of this name. -/
structure NameTaken where
  name : String
deriving DecidableEq

def NameTaken.message (e : NameTaken) : String :=
  "Album " ++ Text.quoted e.name ++ " already exists"

/-- The names tried for a new album: the base itself, then the base with 1, 2, … after it. -/
def candidateName (base : String) : Nat → String
  | 0 => base
  | n + 1 => base ++ Text.decimal (n + 1 : Nat)

/-- The first candidate that is none of the names. If as many candidates as there are names are all
taken, they are the names, and the next candidate is free. -/
def firstFree (names : List String) (base : String) : String :=
  candidateName base (((List.range names.length).find? fun n =>
    decide (candidateName base n ∉ names)).getD names.length)

namespace Library

/-- The first album of this name. -/
def album? (l : Library) (name : String) : Option Album :=
  l.albums.find? fun a => a.name == name

theorem album?_eq_none_iff (l : Library) (name : String) :
    l.album? name = none ↔ ∀ a ∈ l.albums, a.name ≠ name := by
  simp [album?]

def add (l : Library) (a : Album) : Except NameTaken Library :=
  if (l.album? a.name).isSome then .error ⟨a.name⟩
  else .ok { l with albums := l.albums ++ [a] }

/-- Every photo, in the order of the albums, each identity once. -/
def photos (l : Library) : List Photo := firstOfEach Photo.id (l.albums.flatMap Album.photos)

/-- A name that no album bears. An absent or empty base means the usual one. -/
def freeName (l : Library) (usual : String) (base : Option String) : String :=
  firstFree (l.albums.map Album.name) ((base.filter fun b => b ≠ "").getD usual)

/-- A new album for search results; the library does not come to hold it. -/
def albumFor (l : Library) (usual : String) (photos : List Photo) (base : Option String) :
    Except EmptyName Album :=
  Album.named (l.freeName usual base) photos

end Library

end PhotoSearch
