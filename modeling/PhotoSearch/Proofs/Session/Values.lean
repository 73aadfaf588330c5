import Mathlib
import PhotoSearch.Proofs.Catalog.FirstOfEach
import PhotoSearch.Proofs.Catalog.FreeName
import PhotoSearch.Proofs.Record.ReadBack
import PhotoSearch.Proofs.Session.Names

/-!
Objects as values. What a session does by references is what albums, libraries and searches do by
themselves: the value that an object stands for afterwards is the value made from those before.
-/

namespace PhotoSearch

namespace Store

/-- The photos of a stored library are those of the library that it stands for. -/
theorem photosOf_libraryPhotos (s : Store) (l : StoredLibrary) :
    s.photosOf (s.libraryPhotos l) = (s.libraryOf l).photos := by
  have records : s.photosOf ((s.storedAlbums l).flatMap StoredAlbum.photos) =
      (s.libraryOf l).albums.flatMap Album.photos := by
    rw [libraryOf, List.flatMap_map, photosOf, List.filterMap_flatMap]
    rfl
  calc s.photosOf (s.libraryPhotos l)
      = firstOfEach Photo.id (s.photosOf ((s.storedAlbums l).flatMap StoredAlbum.photos)) :=
        filterMap_firstOfEachFrom (fun r : Ref Photo => r.get? s.photos) (fun k => by simp) _
    _ = (s.libraryOf l).photos := by rw [records]; rfl

end Store

theorem Library.nameFrom_ofOptionalString (l : Library) (usual : String) (base : Option String) :
    l.nameFrom usual (.ofOptionalString base) = .str (l.freeName usual base) := by
  cases base <;> rfl

namespace Session

variable {s : Session} {r : Ref StoredLibrary} {l : StoredLibrary}

/-- The album that a name finds stands for the one that it finds in the library's value. -/
theorem albumOf_albumNamed? (s : Session) (l : StoredLibrary) (name : String) :
    (s.albumNamed? l name).bind (fun a => (a.get? s.store.albums).map s.store.albumOf) =
      (s.store.libraryOf l).album? name := by
  simp only [albumNamed?, Store.libraryOf, Store.storedAlbums, Library.album?]
  induction l.albums with
  | nil => rfl
  | cons a rest ih =>
    cases stored : a.get? s.store.albums with
    | none => simpa [stored] using ih
    | some album =>
      by_cases same : album.name = name
      · simp [stored, Store.albumOf, same]
      · simpa [stored, Store.albumOf, same] using ih

theorem isSome_albumNamed? (s : Session) (l : StoredLibrary) (name : String) :
    (s.albumNamed? l name).isSome = ((s.store.libraryOf l).album? name).isSome := by
  rw [← albumOf_albumNamed?]
  cases found : s.albumNamed? l name with
  | none => rfl
  | some a =>
    have named : (a.get? s.store.albums).map StoredAlbum.name = some name := by
      simpa using List.find?_some found
    obtain ⟨album, stored, -⟩ := Option.map_eq_some_iff.1 named
    rw [Option.bind_some, stored]
    rfl

/-- Adding an album by its name is adding its value, the refusal included. -/
theorem onLibrary_insert (stored : r.get? s.store.libraries = some l) {name : String}
    {a : Ref StoredAlbum} {album : StoredAlbum} (found : s.album name = .ok (a, album)) :
    (s.onLibrary r l (.insert name)).map
        (fun e : Effect => (r.get? e.store.libraries).map e.store.libraryOf) =
      (((s.store.libraryOf l).add (s.store.albumOf album)).mapError Failure.nameTaken).map some := by
  have taken : (s.albumNamed? l album.name).isSome =
      ((s.store.libraryOf l).album? (s.store.albumOf album).name).isSome :=
    isSome_albumNamed? s l album.name
  have after : r.get? (r.modify (fun _ => { l with albums := l.albums ++ [a] }) s.store.libraries) =
      some { l with albums := l.albums ++ [a] } := by
    rw [Ref.get?_modify_self, stored]
    rfl
  have longer : s.store.libraryOf { l with albums := l.albums ++ [a] } =
      { s.store.libraryOf l with
        albums := (s.store.libraryOf l).albums ++ [s.store.albumOf album] } := by
    simp [Store.libraryOf, Store.storedAlbums, get?_of_album found]
  simp only [onLibrary, found, bind, Except.bind, taken, Library.add]
  by_cases known : ((s.store.libraryOf l).album? (s.store.albumOf album).name).isSome
  · rw [if_pos known, if_pos known]
    rfl
  · rw [if_neg known, if_neg known]
    simp only [pure, Except.pure, make, Except.map, Except.mapError, Store.setLibrary, after,
      Option.map_some]
    exact congrArg (fun m => Except.ok (some m)) longer

/-- A new album for results is made of the same name and photos as the value of one, and does not
fail. -/
theorem exists_makeAlbum_nameFrom {usual : String} (h : usual ≠ "") (s : Session)
    (l : StoredLibrary) (base : Option String) (refs : List (Ref Photo)) :
    ∃ album, s.makeAlbum ((s.store.libraryOf l).nameFrom usual (.ofOptionalString base))
        (refs.map .photo) =
        .ok (s.make (s.store.putAlbum album).1 (.album (Ref.next s.store.albums))) ∧
      (s.store.libraryOf l).albumFor usual (s.store.photosOf refs) base =
        .ok (s.store.albumOf album) := by
  have free := Library.freeName_ne_empty h (s.store.libraryOf l) base
  have photos : Binding.refs Binding.photo? "photos" (refs.map .photo) = .good refs := by
    apply Reading.items_map
    intro r _ p
    rfl
  refine ⟨⟨(s.store.libraryOf l).freeName usual base, refs⟩, ?_, Library.albumFor_eq_ok h _ _ base⟩
  rw [makeAlbum, Library.nameFrom_ofOptionalString, photos, Reading.albumName,
    albumName_of_ne free]
  rfl

/-- Searching stored photos is searching their values. -/
theorem outcomeOf_searchStored (store : Store) (mode : DateMode) (raw : Data)
    (refs : List (Ref Photo)) :
    (searchStored store mode raw refs).map store.outcomeOf =
      search mode raw (store.photosOf refs) := by
  have kept : store.photosOf (refs.filter fun r => (r.get? store.photos).any (finds mode raw)) =
      (store.photosOf refs).filter (finds mode raw) := by
    rw [Store.photosOf, Store.photosOf, List.filter_filterMap, List.filterMap_filter]
    congr 1
    funext r
    cases r.get? store.photos <;> simp [Option.filter]
  cases searched : search mode raw (store.photosOf refs) with
  | error w => simp only [searchStored, searched, Except.map]
  | ok o =>
    have photos := photos_of_search searched
    simp only [searchStored, searched, Except.map, Store.outcomeOf, kept, ← photos]

end Session

end PhotoSearch
