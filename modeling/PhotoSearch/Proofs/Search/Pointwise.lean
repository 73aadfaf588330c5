import PhotoSearch.Proofs.Search.Finding
import PhotoSearch.Time.Order

/-!
A search looks at each photo by itself, and of a photo only at the wall clock and the tag pairs. So
lists of photos that agree in these are searched alike, a list is searched part by part, and two
searches can be done one after the other in either order.
-/

namespace PhotoSearch

/-! ### Positions -/

section Positions

variable {α β : Type}

/-- What a filter keeps stands at the positions where the condition holds. -/
theorem filterMap_findIdxs (p : α → Bool) (items : List α) :
    (items.findIdxs p).filterMap (items[·]?) = items.filter p := by
  induction items with
  | nil => rfl
  | cons a rest ih =>
    have shifted : (rest.findIdxs p 1).filterMap ((a :: rest)[·]?) = rest.filter p := by
      rw [List.findIdxs_start, List.filterMap_map, ← ih]
      rfl
    by_cases kept : p a = true
    · simp [List.findIdxs_cons, kept, shifted]
    · simp [List.findIdxs_cons, kept, shifted]

theorem findIdxs_eq_of_forall₂ {R : α → β → Prop} {p : α → Bool} {q : β → Bool}
    (same : ∀ a b, R a b → p a = q b) {items : List α} {items' : List β}
    (h : List.Forall₂ R items items') (start : Nat) :
    items.findIdxs p start = items'.findIdxs q start := by
  induction h generalizing start with
  | nil => rfl
  | cons related _ ih => rw [List.findIdxs_cons, List.findIdxs_cons, same _ _ related, ih]

end Positions

/-- The positions of the photos that a search finds. -/
def foundAt (mode : DateMode) (raw : Data) (photos : List Photo) : List Nat :=
  photos.findIdxs (finds mode raw)

theorem search_text_eq_foundAt (mode : DateMode) (s : String) : ∃ kind error, ∀ photos,
    search mode (.str s) photos =
      .ok ⟨s, kind, (foundAt mode (.str s) photos).filterMap (photos[·]?), error⟩ := by
  obtain ⟨kind, error, outcome⟩ := search_text_eq_filter mode s
  refine ⟨kind, error, fun photos => ?_⟩
  rw [foundAt, filterMap_findIdxs]
  exact outcome photos

/-! ### What a search looks at -/

namespace Timestamp

/-- The timestamps have one offset or none, or they are by the clocks of one region. -/
def SameClock (t u : Timestamp) : Prop := t.offset = u.offset ∨ t.sharesRegion u = true

theorem SameClock.symm {t u : Timestamp} (h : t.SameClock u) : u.SameClock t :=
  h.imp Eq.symm fun shared => by rw [sharesRegion_comm, shared]

theorem SameClock.isNaive_eq {t u : Timestamp} (h : t.SameClock u) : t.isNaive = u.isNaive := by
  rcases h with same | shared
  · rw [isNaive, isNaive, same]
  · unfold sharesRegion at shared
    split at shared
    · rename_i zone zone'
      simp [isNaive, offset, zone, zone']
    · cases shared

/-- By one clock, timestamps compare as it shows them. -/
theorem SameClock.before_eq {t u : Timestamp} (h : t.SameClock u) :
    t.before u = .ok (decide (t.wall < u.wall)) := by
  rw [before, if_pos h.isNaive_eq, precedes]
  split
  · rfl
  · rename_i apart
    have same : t.offset = u.offset := h.resolve_right apart
    have walls : t.instant < u.instant ↔ t.wall < u.wall := by
      simp only [instant, same]
      omega
    rw [decide_eq_decide.2 walls]

/-- The date and the time of a naive timestamp, by the clocks of a zone that are at the offset `o`
then. -/
def grafted (t : Timestamp) (zone : Option Zone) (o : Offset) : Timestamp :=
  { t with zone := zone.map (Zone.shifted o) }

theorem sameClock_grafted (t bound : Timestamp) (o : Offset) :
    t.SameClock (bound.grafted t.zone o) := by
  cases zone : t.zone with
  | none => exact .inl (by simp [offset, grafted, zone])
  | some z =>
    cases z with
    | fixed own => exact .inl (by simp [offset, grafted, zone, Zone.shifted])
    | region name own => exact .inr (by simp [sharesRegion, grafted, zone, Zone.shifted])

end Timestamp

/-- Whether a timestamp is neither before the start nor after the end of a span, where the bounds are
by its clocks. Those may be at other offsets, `o` at the start and `o'` at the end. -/
def Span.covers (s : Span) (t : Timestamp) (o o' : Offset) : Except MixedTimes Bool := do
  let early ← t.before (s.start.grafted t.zone o)
  let late ← (s.finish.grafted t.zone o').before t
  return !early && !late

/-- The bounds can be compared with every timestamp, and only its wall clock counts. -/
theorem Span.covers_eq (s : Span) (t : Timestamp) (o o' : Offset) :
    s.covers t o o' = .ok (s.contains t) := by
  have early : t.before (s.start.grafted t.zone o) = .ok (decide (t.wall < s.start.wall)) :=
    (Timestamp.sameClock_grafted t s.start o).before_eq
  have late : (s.finish.grafted t.zone o').before t = .ok (decide (s.finish.wall < t.wall)) :=
    (Timestamp.sameClock_grafted t s.finish o').symm.before_eq
  have both : (!decide (t.wall < s.start.wall) && !decide (s.finish.wall < t.wall)) =
      s.contains t := by
    rw [Bool.eq_iff_iff, contains_iff]
    simp
  rw [covers, early, late, ← both]
  rfl

/-- Two photos whose wall clocks show the same date and time and which carry the same tags, in any
order and any number. -/
structure Photo.LooksLike (p q : Photo) : Prop where
  date : p.timestamp.date = q.timestamp.date
  time : p.timestamp.time = q.timestamp.time
  tags : ∀ t : Tag, t ∈ p.tags.tags ↔ t ∈ q.tags.tags

theorem Photo.LooksLike.finds_eq {p q : Photo} (h : p.LooksLike q) (mode : DateMode) (raw : Data) :
    finds mode raw p = finds mode raw q := by
  apply finds_congr
  · simp only [Timestamp.wall, h.date, h.time]
  · intro key value
    rw [Bool.eq_iff_iff, TagSet.contains_iff, TagSet.contains_iff]
    exact h.tags ⟨key, value⟩

theorem foundAt_eq_of_looksLike {photos photos' : List Photo}
    (h : List.Forall₂ Photo.LooksLike photos photos') (mode : DateMode) (raw : Data) :
    foundAt mode raw photos = foundAt mode raw photos' :=
  findIdxs_eq_of_forall₂ (fun _ _ alike => alike.finds_eq mode raw) h 0

/-- Searching two lists has one kind and one error, and finds photos at the same positions. -/
def SearchedAlike (mode : DateMode) (s : String) (photos photos' : List Photo) : Prop :=
  ∃ (kind : Option String) (error : Option ErrorNote) (positions : List Nat),
    foundAt mode (.str s) photos = positions ∧ foundAt mode (.str s) photos' = positions ∧
    search mode (.str s) photos = .ok ⟨s, kind, positions.filterMap (photos[·]?), error⟩ ∧
    search mode (.str s) photos' = .ok ⟨s, kind, positions.filterMap (photos'[·]?), error⟩

/-- Photos that look like each other, position by position, are searched alike. Zones play no part,
even where timestamps are compared as such, since the bounds of a span are by the clocks of each. -/
theorem search_looks_at_wall_clock_and_tags {photos photos' : List Photo}
    (h : List.Forall₂ Photo.LooksLike photos photos') (mode : DateMode) (s : String) :
    SearchedAlike mode s photos photos' ∧
      ∀ (span : Span) (t : Timestamp) (o o' : Offset),
        span.covers t o o' = .ok (span.contains t) := by
  obtain ⟨kind, error, outcome⟩ := search_text_eq_foundAt mode s
  have same := foundAt_eq_of_looksLike h mode (.str s)
  have second := outcome photos'
  rw [← same] at second
  exact ⟨⟨kind, error, foundAt mode (.str s) photos, rfl, same.symm, outcome photos, second⟩,
    Span.covers_eq⟩

/-- Midnight at an offset that makes it another day in universal time, and a naive midnight. -/
theorem search_looks_at_wall_clock_and_tags_midnight :
    let aware : Photo := ⟨.given "a", ⟨Date.epoch, .midnight, some (.fixed (.ofMinutes 840 (by decide)))⟩,
      ⟨[⟨"k", "v"⟩, ⟨"k", "w"⟩]⟩, none, none⟩
    let naive : Photo := ⟨.given "b", ⟨Date.epoch, .midnight, none⟩,
      ⟨[⟨"k", "w"⟩, ⟨"k", "v"⟩, ⟨"k", "w"⟩]⟩, some "b.jpg", none⟩
    List.Forall₂ Photo.LooksLike [aware] [naive] ∧
      SearchedAlike .strict "01/01/1970-01/01/1970" [aware] [naive] := by
  intro aware naive
  have tags : ∀ t : Tag, t ∈ aware.tags.tags ↔ t ∈ naive.tags.tags := by
    intro t
    simp only [aware, naive, List.mem_cons, List.not_mem_nil, or_false]
    tauto
  have alike : List.Forall₂ Photo.LooksLike [aware] [naive] := .cons ⟨rfl, rfl, tags⟩ .nil
  exact ⟨alike, (search_looks_at_wall_clock_and_tags alike .strict "01/01/1970-01/01/1970").1⟩

/-! ### Each photo by itself -/

/-- Searching for a text has one kind and one error for all lists of photos, and finds in two lists
together what it finds in the one and then what it finds in the other. Searching for the text of an
outcome among its photos has the same outcome again, and of two searches each may be done in the
results of the other. -/
theorem search_acts_on_each_photo (mode : DateMode) (s : String) : ∃ outcome : List Photo → Outcome,
    (∀ photos, search mode (.str s) photos = .ok (outcome photos)) ∧
    (∀ photos photos', (outcome photos).kind = (outcome photos').kind ∧
      (outcome photos).error = (outcome photos').error ∧
      (outcome (photos ++ photos')).photos = (outcome photos).photos ++ (outcome photos').photos) ∧
    (∀ photos, search mode (.str (outcome photos).query) (outcome photos).photos =
      .ok (outcome photos)) ∧
    ∀ (mode' : DateMode) (s' : String), ∃ outcome' : List Photo → Outcome,
      (∀ photos, search mode' (.str s') photos = .ok (outcome' photos)) ∧
      ∀ photos, (outcome' (outcome photos).photos).photos =
        (outcome (outcome' photos).photos).photos := by
  obtain ⟨kind, error, searches⟩ := search_text_eq_filter mode s
  refine ⟨fun photos => ⟨s, kind, photos.filter (finds mode (.str s)), error⟩, searches, ?_, ?_, ?_⟩
  · intro photos photos'
    exact ⟨rfl, rfl, List.filter_append photos photos'⟩
  · intro photos
    have again : (photos.filter (finds mode (.str s))).filter (finds mode (.str s)) =
        photos.filter (finds mode (.str s)) := by
      simp [List.filter_filter]
    rw [searches, again]
  · intro mode' s'
    obtain ⟨kind', error', searches'⟩ := search_text_eq_filter mode' s'
    refine ⟨fun photos => ⟨s', kind', photos.filter (finds mode' (.str s')), error'⟩, searches', ?_⟩
    intro photos
    exact List.filter_comm _ _ photos

end PhotoSearch
