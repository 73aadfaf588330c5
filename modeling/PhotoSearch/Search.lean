import PhotoSearch.Catalog.Outcome
import PhotoSearch.Query.Matching

/-!
Searching: raw input and photos in, an outcome out. To search an album or a library is to search
its photos.
-/

namespace PhotoSearch

/-- The outcome for a text once it is known what query it was read as, if any. A number that is too
large is no matter of the query and is passed on. -/
def searchRead (mode : DateMode) (text : String) (read : Except QueryError Query)
    (photos : List Photo) : Except Overflow Outcome :=
  match read with
  | .error e => .ok ⟨text, none, [], some (.ofQueryError e)⟩
  | .ok q =>
    match q.evaluate mode photos with
    | .ok found => .ok ⟨text, some q.kind, found, none⟩
    | .error (.query e) => .ok ⟨text, some q.kind, [], some (.ofQueryError e)⟩
    | .error (.overflow o) => .error o

def search (mode : DateMode) (raw : Data) (photos : List Photo) : Except Overflow Outcome :=
  searchRead mode raw.rawText (Query.read raw) photos

/-- Whether a search finds a photo. -/
def finds (mode : DateMode) (raw : Data) (photo : Photo) : Bool :=
  match Query.read raw with
  | .error _ => false
  | .ok q =>
    match q.test mode with
    | .error _ => false
    | .ok p => p photo

/-- An outcome holds the photos that the search finds, in the order in which they were given. -/
theorem photos_of_search {mode : DateMode} {raw : Data} {photos : List Photo} {o : Outcome}
    (h : search mode raw photos = .ok o) : o.photos = photos.filter (finds mode raw) := by
  simp only [search, searchRead, Query.evaluate] at h
  unfold finds
  cases hq : Query.read raw with
  | error e => simp only [hq] at h; cases h; simp
  | ok q =>
    simp only [hq] at h ⊢
    cases ht : q.test mode with
    | error f => cases f <;> simp only [ht, Except.map] at h <;> cases h; simp
    | ok p => simp only [ht, Except.map] at h; cases h; rfl

end PhotoSearch
