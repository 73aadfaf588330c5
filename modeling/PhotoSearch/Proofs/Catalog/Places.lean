import PhotoSearch.Catalog.Library
import PhotoSearch.Proofs.Catalog.FirstOfEach

/-!
The photos of a library by the places where its albums hold them. A place is the number of an album
and a number within it; places are in order by the first, then by the second. The library lists the
photos at those places before which none has their identity.
-/

namespace PhotoSearch.Library

/-- The photo at a place, if there is an album of this number and a photo of this number in it. -/
def photoAt? (l : Library) (place : Nat ×ₗ Nat) : Option Photo :=
  l.albums[(ofLex place).1]?.bind fun a => a.photos[(ofLex place).2]?

/-- The photos of all albums with their places. -/
def placed (l : Library) : List (Photo × (Nat ×ₗ Nat)) :=
  l.albums.zipIdx.flatMap fun a => a.1.photos.zipIdx.map fun p => (p.1, toLex (a.2, p.2))

/-- Without their places these are the photos of one album after the other. -/
theorem map_fst_placed (l : Library) : l.placed.map Prod.fst = l.albums.flatMap Album.photos := by
  have within : ∀ a : Album × Nat,
      (a.1.photos.zipIdx.map fun p => (p.1, toLex (a.2, p.2))).map Prod.fst = a.1.photos := by
    intro a
    rw [List.map_map]
    exact List.zipIdx_map_fst 0 a.1.photos
  simp only [placed, List.map_flatMap, within]
  rw [← List.flatMap_map, List.zipIdx_map_fst]

theorem mem_placed_iff {l : Library} {p : Photo} {place : Nat ×ₗ Nat} :
    (p, place) ∈ l.placed ↔ l.photoAt? place = some p := by
  simp only [placed, List.mem_flatMap, List.mem_map, photoAt?, Option.bind_eq_some_iff]
  constructor
  · rintro ⟨⟨a, i⟩, ha, ⟨q, j⟩, hq, same⟩
    cases same
    exact ⟨a, List.mem_zipIdx_iff_getElem?.1 ha, List.mem_zipIdx_iff_getElem?.1 hq⟩
  · rintro ⟨a, ha, hp⟩
    exact ⟨(a, (ofLex place).1), List.mem_zipIdx_iff_getElem?.2 ha, (p, (ofLex place).2),
      List.mem_zipIdx_iff_getElem?.2 hp, rfl⟩

theorem pairwise_placed (l : Library) : l.placed.Pairwise fun a b => a.2 < b.2 := by
  rw [placed, List.pairwise_flatMap]
  constructor
  · intro a _
    rw [List.pairwise_map]
    refine (pairwise_zipIdx a.1.photos).imp fun within => ?_
    exact Prod.Lex.toLex_lt_toLex.2 (.inr ⟨rfl, within⟩)
  · refine (pairwise_zipIdx l.albums).imp fun before p hp q hq => ?_
    obtain ⟨_, -, rfl⟩ := List.mem_map.1 hp
    obtain ⟨_, -, rfl⟩ := List.mem_map.1 hq
    exact Prod.Lex.toLex_lt_toLex.2 (.inl before)

/-- At the place there is a photo, and none with its identity at any place before. -/
def FirstAt (l : Library) (place : Nat ×ₗ Nat) : Prop :=
  ∃ p, l.photoAt? place = some p ∧
    ∀ earlier q, earlier < place → l.photoAt? earlier = some q → q.id ≠ p.id

/-- The places at which an identity comes first, in order, and what stands there. -/
theorem exists_places (l : Library) : ∃ places : List (Nat ×ₗ Nat), places.Pairwise (· < ·) ∧
    (∀ place, place ∈ places ↔ l.FirstAt place) ∧ places.map l.photoAt? = l.photos.map some := by
  have chosen : firstOfEachFrom Photo.id [] (l.placed.map Prod.fst) = _ :=
    firstOfEachFrom_placed [] l.pairwise_placed
  simp only [List.not_mem_nil, not_false_eq_true, true_and] at chosen
  rw [map_fst_placed] at chosen
  refine ⟨(l.placed.filter fun a => decide (∀ b ∈ l.placed, b.2 < a.2 → b.1.id ≠ a.1.id)).map
    Prod.snd, ?_, ?_, ?_⟩
  · rw [List.pairwise_map]
    exact l.pairwise_placed.sublist List.filter_sublist
  · intro place
    simp only [List.mem_map, List.mem_filter, decide_eq_true_eq]
    constructor
    · rintro ⟨⟨p, _⟩, ⟨stands, first⟩, rfl⟩
      exact ⟨p, mem_placed_iff.1 stands, fun earlier q before stands' =>
        first (q, earlier) (mem_placed_iff.2 stands') before⟩
    · rintro ⟨p, stands, first⟩
      exact ⟨(p, place), ⟨mem_placed_iff.2 stands, fun b hb before =>
        first b.2 b.1 before (mem_placed_iff.1 hb)⟩, rfl⟩
  · rw [photos, firstOfEach, chosen, List.map_map, List.map_map]
    apply List.map_congr_left
    intro a ha
    exact mem_placed_iff.1 (List.mem_filter.1 ha).1

/-- What an album has that the library does not list yet: of each new identity the first photo. -/
def newIn (l : Library) (a : Album) : List Photo :=
  (newcomers Photo.id a.photos).filter fun p => decide (p.id ∉ l.photos.map Photo.id)

theorem photos_append (l : Library) (a : Album) :
    photos { l with albums := l.albums ++ [a] } = l.photos ++ l.newIn a := by
  simp only [photos, newIn, mem_map_firstOfEach, ← firstOfEach_eq_newcomers]
  rw [← firstOfEach_append, List.flatMap_append, List.flatMap_singleton]

theorem mem_map_id_photos_iff {l : Library} {id : PhotoId} :
    id ∈ l.photos.map Photo.id ↔ ∃ a ∈ l.albums, ∃ p ∈ a.photos, p.id = id := by
  rw [photos, mem_map_firstOfEach, List.map_flatMap]
  simp only [List.mem_flatMap, List.mem_map]

/-- The library lists each identity that one of its albums holds, and each once: the photo at the first
of its places, in the order of these places. With one more album the list goes on with the photos
whose identities are new. -/
theorem photos_lists_each_id_once (l : Library) :
    (l.photos.map Photo.id).Nodup ∧
    (∀ id, id ∈ l.photos.map Photo.id ↔ ∃ a ∈ l.albums, ∃ p ∈ a.photos, p.id = id) ∧
    (∃ places : List (Nat ×ₗ Nat), places.Pairwise (· < ·) ∧
      (∀ place, place ∈ places ↔ l.FirstAt place) ∧ places.map l.photoAt? = l.photos.map some) ∧
    (∀ a, photos { l with albums := l.albums ++ [a] } = l.photos ++ l.newIn a) ∧
    ∀ a l', l.add a = .ok l' → l'.photos = l.photos ++ l.newIn a := by
  refine ⟨nodup_map_firstOfEach _, fun id => mem_map_id_photos_iff, l.exists_places,
    l.photos_append, fun a l' added => ?_⟩
  rw [add] at added
  split at added
  · cases added
  · cases added
    exact l.photos_append a

end PhotoSearch.Library
