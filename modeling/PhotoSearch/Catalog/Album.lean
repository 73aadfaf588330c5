import PhotoSearch.Catalog.Photo
import PhotoSearch.Time.Order

/-! Albums: named lists of photos. -/

namespace PhotoSearch

structure Album where
  name : String
  photos : List Photo
deriving DecidableEq

/-- An album was to have the empty name. -/
inductive EmptyName where
  | emptyName
deriving DecidableEq

def EmptyName.message : EmptyName → String
  | emptyName => "Album name cannot be empty"

/-- The name itself, if an album can bear it. -/
def albumName (name : String) : Except EmptyName String :=
  if name = "" then .error .emptyName else .ok name

theorem albumName_of_ne {name : String} (h : name ≠ "") : albumName name = .ok name := if_neg h

namespace Album

def named (name : String) (photos : List Photo) : Except EmptyName Album :=
  (albumName name).map fun name => ⟨name, photos⟩

def size (a : Album) : Nat := a.photos.length

def add (a : Album) (p : Photo) : Album := { a with photos := a.photos ++ [p] }

@[simp] theorem size_add (a : Album) (p : Photo) : (a.add p).size = a.size + 1 := by
  simp [size, add]

/-- Takes the first photo with this identity away; `none` if there is none. -/
def remove? (a : Album) (id : PhotoId) : Option Album :=
  if a.photos.any fun p => p.id == id then
    some { a with photos := a.photos.eraseP fun p => p.id == id }
  else none

theorem remove?_eq_none_iff (a : Album) (id : PhotoId) :
    a.remove? id = none ↔ ∀ p ∈ a.photos, p.id ≠ id := by
  simp [remove?]

def rename (a : Album) (name : String) : Except EmptyName Album :=
  (albumName name).map fun name => { a with name }

/-- The earliest timestamp among the photos. -/
def firstTime (a : Album) : Except MixedTimes (Option Timestamp) :=
  match a.photos.map Photo.timestamp with
  | [] => .ok none
  | t :: rest => (Timestamp.earliest t rest).map some

/-- The latest timestamp among the photos. -/
def lastTime (a : Album) : Except MixedTimes (Option Timestamp) :=
  match a.photos.map Photo.timestamp with
  | [] => .ok none
  | t :: rest => (Timestamp.latest t rest).map some

end Album

end PhotoSearch
