import PhotoSearch.Catalog.Library
import PhotoSearch.Proofs.Catalog.FirstOfEach
import PhotoSearch.Proofs.Search.Finding

/-!
Searching a library and searching its albums. The library's search looks at the first record of each
identity; where copies of a photo agree, its identities are those that the albums' searches find, each
at its first place.
-/

namespace PhotoSearch

namespace Library

/-- The photos of all albums, one album after the other, copies included. -/
def records (l : Library) : List Photo := l.albums.flatMap Album.photos

theorem photos_eq_newcomers (l : Library) : l.photos = newcomers Photo.id l.records :=
  firstOfEach_eq_newcomers l.records

theorem exists_album_of_mem_photos {l : Library} {p : Photo} (h : p ∈ l.photos) :
    ∃ a ∈ l.albums, p ∈ a.photos :=
  List.mem_flatMap.1 ((firstOfEachFrom_sublist Photo.id [] l.records).subset h)

/-- Records of one identity carry the same timestamp and the same tags. -/
def CopiesAgree (l : Library) : Prop :=
  ∀ p ∈ l.records, ∀ q ∈ l.records, p.id = q.id → p.timestamp = q.timestamp ∧ p.tags = q.tags

/-- Where copies agree, a search treats them alike, so it may as well be done before copies are left
out, album by album. -/
theorem CopiesAgree.ids_filter_photos {l : Library} (h : l.CopiesAgree) (mode : DateMode)
    (raw : Data) : (l.photos.filter (finds mode raw)).map Photo.id =
      (l.albums.flatMap fun a => (a.photos.filter (finds mode raw)).map Photo.id).eraseDups := by
  have alike : ∀ p ∈ l.records, ∀ q ∈ l.records, p.id = q.id →
      finds mode raw p = finds mode raw q := by
    intro p hp q hq same
    obtain ⟨time, tags⟩ := h p hp q hq same
    exact finds_congr (by rw [time]) (fun key value => by rw [tags]) mode raw
  calc (l.photos.filter (finds mode raw)).map Photo.id
      = (firstOfEach Photo.id (l.records.filter (finds mode raw))).map Photo.id := by
        rw [← filter_firstOfEach alike]; rfl
    _ = ((l.records.filter (finds mode raw)).map Photo.id).eraseDups := map_firstOfEach _
    _ = (l.albums.flatMap fun a =>
          (a.photos.filter (finds mode raw)).map Photo.id).eraseDups := by
        rw [records, List.filter_flatMap, List.map_flatMap]

end Library

/-- Searching a library for a text has the kind and the error of searching any album. If there is no
error, it returns the records that are the first of their identity and meet the query, in their
order; each of its identities is returned by the search of one of the albums; and if copies of a
photo agree, its identities are those that the albums' searches return one after the other, each at
its first place. -/
theorem search_library_eq_album_searches (mode : DateMode) (s : String) (l : Library) :
    ∃ (o : Outcome) (found : Album → Outcome), search mode (.str s) l.photos = .ok o ∧
      (∀ a, search mode (.str s) a.photos = .ok (found a) ∧ (found a).kind = o.kind ∧
        (found a).error = o.error) ∧
      (o.error = none →
        ((o.photos.map Photo.id).Nodup ∧
          ∃ q meets, Query.read (.str s) = .ok q ∧
            (∀ p, meets p = true ↔ q.Meets mode p) ∧
            o.photos = (newcomers Photo.id l.records).filter meets) ∧
        (∀ p ∈ o.photos, ∃ a ∈ l.albums, p.id ∈ (found a).photos.map Photo.id) ∧
        (l.CopiesAgree → o.photos.map Photo.id =
          (l.albums.flatMap fun a => (found a).photos.map Photo.id).eraseDups)) := by
  obtain ⟨kind, error, outcome⟩ := search_text_eq_filter mode s
  refine ⟨⟨s, kind, l.photos.filter (finds mode (.str s)), error⟩,
    fun a => ⟨s, kind, a.photos.filter (finds mode (.str s)), error⟩, outcome l.photos,
    fun a => ⟨outcome a.photos, rfl, rfl⟩, fun succeeds => ⟨⟨?_, ?_⟩, ?_, ?_⟩⟩
  · have kept := (List.filter_sublist (p := finds mode (.str s)) (l := l.photos)).map Photo.id
    exact (nodup_map_firstOfEach l.records).sublist kept
  · obtain ⟨q, hq⟩ := read_of_search (outcome l.photos) succeeds
    exact ⟨q, finds mode (.str s), hq, finds_iff_meets hq, by rw [Library.photos_eq_newcomers]⟩
  · intro p hp
    obtain ⟨member, meets⟩ := List.mem_filter.1 hp
    obtain ⟨a, ha, hpa⟩ := Library.exists_album_of_mem_photos member
    exact ⟨a, ha, List.mem_map_of_mem (List.mem_filter.2 ⟨hpa, meets⟩)⟩
  · exact fun agree => agree.ids_filter_photos mode (.str s)

end PhotoSearch
