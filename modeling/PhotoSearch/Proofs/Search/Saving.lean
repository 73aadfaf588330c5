import PhotoSearch.Failure
import PhotoSearch.Proofs.Catalog.FreeName
import PhotoSearch.Proofs.Catalog.Places
import PhotoSearch.Proofs.Search.Libraries

/-!
Keeping what is found. A library is searched again and again, and whenever a search succeeds an album
of its results is added. Nothing of this can fail, and nothing that a search looks at changes.
-/

namespace PhotoSearch

/-- A search of a library, and the base for the name of the album that is to keep its results. -/
structure Saving where
  mode : DateMode
  text : String
  base : Option String

/-- What the search finds in a library, if it succeeds. -/
def Saving.found? (v : Saving) (l : Library) : Option (List Photo) :=
  match search v.mode (.str v.text) l.photos with
  | .ok o => if o.error.isSome then none else some o.photos
  | .error _ => none

namespace Library

/-- Searches the library and, if the search succeeds, adds an album of its results. -/
def save (l : Library) (usual : String) (v : Saving) : Except Failure Library := do
  let o ← (search v.mode (.str v.text) l.photos).mapError .overflow
  if o.error.isSome then return l
  else
    let a ← (l.albumFor usual o.photos v.base).mapError .emptyName
    (l.add a).mapError .nameTaken

def saveAll (l : Library) (usual : String) : List Saving → Except Failure Library
  | [] => .ok l
  | v :: rest => do (← l.save usual v).saveAll usual rest

/-! ### Adding what is there already -/

/-- An album of photos that the library holds adds none. -/
theorem photos_append_album {l : Library} {a : Album} (h : a.photos ⊆ l.photos) :
    photos { l with albums := l.albums ++ [a] } = l.photos := by
  have nothing : l.newIn a = [] := by
    rw [newIn, List.filter_eq_nil_iff, ← firstOfEach_eq_newcomers]
    intro p hp
    have listed := h ((firstOfEachFrom_sublist Photo.id [] a.photos).subset hp)
    simpa using List.mem_map_of_mem listed
  rw [photos_append, nothing, List.append_nil]

/-- What became of a library: the same owner, albums and photos, and perhaps more albums behind,
whose names do not repeat any. -/
structure Continues (l l' : Library) : Prop where
  owner : l'.owner = l.owner
  photos : l'.photos = l.photos
  albums : l.albums <+: l'.albums
  names : (l.albums.map Album.name).Nodup → (l'.albums.map Album.name).Nodup

theorem Continues.refl (l : Library) : l.Continues l :=
  ⟨rfl, rfl, List.prefix_refl l.albums, id⟩

theorem Continues.trans {l m n : Library} (h : l.Continues m) (h' : m.Continues n) :
    l.Continues n where
  owner := h'.owner.trans h.owner
  photos := h'.photos.trans h.photos
  albums := h.albums.trans h'.albums
  names := h'.names ∘ h.names

theorem continues_of_add {l l' : Library} {a : Album} (h : l.add a = .ok l')
    (held : a.photos ⊆ l.photos) : l.Continues l' := by
  have names := nodup_names_of_add h
  by_cases taken : a.name ∈ l.albums.map Album.name
  · rw [add, if_pos ((album?_isSome_iff l a.name).2 taken)] at h
    cases h
  · rw [add_of_notMem taken] at h
    cases h
    exact ⟨rfl, photos_append_album held, List.prefix_append l.albums [a], names⟩

/-! ### One search and its album -/

theorem Continues.found?_eq {l l' : Library} (h : l.Continues l') (v : Saving) :
    v.found? l' = v.found? l := by
  simp only [Saving.found?, h.photos]

theorem found?_subset {l : Library} {v : Saving} {photos : List Photo}
    (h : v.found? l = some photos) : photos ⊆ l.photos := by
  simp only [Saving.found?] at h
  split at h
  · rename_i o ho
    split at h
    · cases h
    · cases h
      rw [photos_of_search ho]
      intro p hp
      exact (List.mem_filter.1 hp).1
  · cases h

theorem save_of_search {l : Library} {v : Saving} {o : Outcome}
    (h : search v.mode (.str v.text) l.photos = .ok o) (usual : String) :
    l.save usual v = if o.error.isSome then .ok l else
      (l.albumFor usual o.photos v.base).mapError Failure.emptyName >>= fun a =>
        (l.add a).mapError Failure.nameTaken := by
  rw [save, h]
  rfl

/-- A search that fails is an outcome too, and leaves the library as it is. -/
theorem save_of_found?_eq_none {l : Library} {v : Saving} (h : v.found? l = none) (usual : String) :
    l.save usual v = .ok l := by
  obtain ⟨o, ho⟩ := exists_search_text v.mode v.text l.photos
  simp only [Saving.found?, ho] at h
  split at h
  · rename_i failed
    rw [save_of_search ho, if_pos failed]
  · cases h

/-- The name of the album is free and not empty, so it is made and added. -/
theorem save_of_found?_eq_some {l : Library} {v : Saving} {photos : List Photo}
    (h : v.found? l = some photos) {usual : String} (hu : usual ≠ "") :
    ∃ a l', l.save usual v = .ok l' ∧ l.Continues l' ∧ a.photos = photos ∧
      l'.albums = l.albums ++ [a] := by
  have held := found?_subset h
  obtain ⟨o, ho⟩ := exists_search_text v.mode v.text l.photos
  simp only [Saving.found?, ho] at h
  split at h
  · cases h
  · rename_i succeeded
    cases h
    have added := add_of_notMem (a := ⟨l.freeName usual v.base, o.photos⟩)
      (l.freeName_notMem usual v.base)
    refine ⟨⟨l.freeName usual v.base, o.photos⟩, _, ?_, continues_of_add added held, rfl, rfl⟩
    rw [save_of_search ho, if_neg succeeded, albumFor_eq_ok hu]
    exact congrArg (Except.mapError Failure.nameTaken) added

theorem exists_save {usual : String} (hu : usual ≠ "") (l : Library) (v : Saving) :
    ∃ l' saved, l.save usual v = .ok l' ∧ l.Continues l' ∧ l'.albums = l.albums ++ saved ∧
      saved.map Album.photos = (v.found? l).toList := by
  cases found : v.found? l with
  | none =>
    refine ⟨l, [], save_of_found?_eq_none found usual, Continues.refl l, ?_, rfl⟩
    rw [List.append_nil]
  | some photos =>
    obtain ⟨a, l', saved, continues, rfl, albums⟩ := save_of_found?_eq_some found hu
    exact ⟨l', [a], saved, continues, albums, rfl⟩

/-! ### Any number of searches -/

theorem exists_saveAll {usual : String} (hu : usual ≠ "") (l : Library) (savings : List Saving) :
    ∃ l' saved, l.saveAll usual savings = .ok l' ∧ l.Continues l' ∧
      l'.albums = l.albums ++ saved ∧
      saved.map Album.photos = savings.filterMap fun v => v.found? l := by
  induction savings generalizing l with
  | nil => exact ⟨l, [], rfl, Continues.refl l, (List.append_nil _).symm, rfl⟩
  | cons v rest ih =>
    obtain ⟨m, first, saves, continues, albums, photos⟩ := exists_save hu l v
    obtain ⟨n, others, savesAll, continues', albums', photos'⟩ := ih m
    have unchanged : (fun v : Saving => v.found? m) = fun v => v.found? l := by
      funext w
      exact continues.found?_eq w
    refine ⟨n, first ++ others, ?_, continues.trans continues', ?_, ?_⟩
    · rw [saveAll, saves]
      exact savesAll
    · rw [albums', albums, List.append_assoc]
    · rw [List.map_append, photos, photos', unchanged, List.filterMap_cons]
      cases v.found? l <;> rfl

end Library

/-- However often results are kept, under any names and settings, nothing fails: an album is added
for each search that succeeds, and it holds what that search finds in the library as it was at first.
The photos of the library stay the same, and so does what any search makes of them; the albums that
were there stay in place; and if their names all differed, the names all differ in the end. -/
theorem saveAll_keeps_library (settings : Settings) (l : Library) (savings : List Saving) :
    ∃ l' saved, l.saveAll settings.resultsName savings = .ok l' ∧ l'.photos = l.photos ∧
      (∀ mode raw, search mode raw l'.photos = search mode raw l.photos) ∧
      l'.owner = l.owner ∧ l'.albums = l.albums ++ saved ∧
      (saved.map Album.photos = savings.filterMap fun v => v.found? l) ∧
      ((l.albums.map Album.name).Nodup → (l'.albums.map Album.name).Nodup) := by
  obtain ⟨l', saved, all, continues, albums, photos⟩ :=
    Library.exists_saveAll settings.resultsName_ne_empty l savings
  refine ⟨l', saved, all, continues.photos, fun mode raw => ?_, continues.owner, albums, photos,
    continues.names⟩
  rw [continues.photos]

end PhotoSearch
