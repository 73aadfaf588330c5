import PhotoSearch.Proofs.Catalog.AlbumTimes
import PhotoSearch.Proofs.Search.DaySpan

/-!
Searching an album for its own days, from that of its first time to that of its last. Where all
timestamps have one offset, or none, the order of instants is that of wall clocks, and the search finds
all photos but those of the last second that a range leaves out.
-/

namespace PhotoSearch

/-- At one offset, an earlier instant does not fall on a later day. -/
theorem Timestamp.NoLater.date_le {t u : Timestamp} (h : t.NoLater u) (same : t.offset = u.offset) :
    t.date ≤ u.date := by
  have order := (noLater_iff.1 h).2
  have walls : t.wall ≤ u.wall := by
    simp only [instant, same] at order
    omega
  exact not_lt.1 fun later => not_lt.2 walls (wall_lt_wall_iff.2 (.inl later))

namespace Album

variable {a : Album} {offset : Option Offset}

theorem not_isMixed_of_offset (common : ∀ p ∈ a.photos, p.timestamp.offset = offset) :
    ¬ a.IsMixed := by
  have alike : ∀ p ∈ a.photos, p.timestamp.isNaive = offset.isNone := by
    intro p hp
    rw [Timestamp.isNaive, common p hp]
  exact not_isMixed_of_alike alike

/-- The photos of an album stand on days from that of the first time to that of the last. -/
theorem exists_ends_bound (nonempty : a.photos ≠ [])
    (common : ∀ p ∈ a.photos, p.timestamp.offset = offset) :
    ∃ first last, a.firstTime = .ok (some first) ∧ a.lastTime = .ok (some last) ∧
      first.date ≤ last.date ∧
      ∀ p ∈ a.photos, first.date ≤ p.timestamp.date ∧ p.timestamp.date ≤ last.date := by
  have alike := not_isMixed_of_offset common
  have same : ∀ r ∈ a.photos, ∀ u ∈ a.photos, r.timestamp.offset = u.timestamp.offset :=
    fun r hr u hu => (common r hr).trans (common u hu).symm
  have steady : a.IsSteady := fun r hr u hu => Timestamp.steady_of_offset_eq (same r hr u hu)
  obtain ⟨p, isFirst, first⟩ := exists_firstTime steady nonempty alike
  obtain ⟨q, isLast, last⟩ := exists_lastTime steady nonempty alike
  have bounds : ∀ r ∈ a.photos, p.timestamp.date ≤ r.timestamp.date ∧
      r.timestamp.date ≤ q.timestamp.date := by
    intro r hr
    exact ⟨(isFirst.all r hr).date_le (same p isFirst.mem r hr),
      (isLast.all r hr).date_le (same r hr q isLast.mem)⟩
  exact ⟨_, _, first, last, (bounds q isLast.mem).1, bounds⟩

end Album

/-- Searching an album, in either mode, for the days from its first time to its last, typed out. If its
timestamps are all naive, or all aware with one offset, this finds every photo in the order of the album,
except those on the last day with a time after 23:59:59. -/
theorem search_own_days {a : Album} {offset : Option Offset} (nonempty : a.photos ≠ [])
    (common : ∀ p ∈ a.photos, p.timestamp.offset = offset) (mode : DateMode) :
    ∃ first last, a.firstTime = .ok (some first) ∧ a.lastTime = .ok (some last) ∧
      search mode (.str (DayRange.datesText first.date last.date)) a.photos = .ok
        ⟨DayRange.datesText first.date last.date, some "date_range",
          a.photos.filter fun p =>
            decide ¬ (p.timestamp.date = last.date ∧ TimeOfDay.lastSecond < p.timestamp.time),
          none⟩ := by
  obtain ⟨first, last, hf, hl, order, bounds⟩ := Album.exists_ends_bound nonempty common
  refine ⟨first, last, hf, hl, ?_⟩
  rw [search_datesText_of_le order]
  have found : ∀ p ∈ a.photos, decide (p.timestamp.OnDays first.date last.date) =
      decide ¬ (p.timestamp.date = last.date ∧ TimeOfDay.lastSecond < p.timestamp.time) := by
    intro p hp
    rw [decide_eq_decide, Timestamp.OnDays, and_iff_right (bounds p hp)]
  rw [List.filter_congr found]

/-- Two photos by a clock nine hours ahead of universal time, the later one half a second before
midnight. That half second is in none of the days that are searched for. -/
theorem search_own_days_tokyo :
    let newYear : Date := ⟨2024, 1, 1, by decide, by decide, by decide⟩
    let eve : Date := ⟨2023, 12, 31, by decide, by decide, by decide⟩
    let late : TimeOfDay := ⟨23, 59, 59, 500000, by decide, by decide, by decide, by decide⟩
    let ahead : Offset := .ofMinutes 540 (by decide)
    let tokyo : Option Zone := some (.fixed ahead)
    let photo (time : Timestamp) : Photo := ⟨.given "p", time, ⟨[]⟩, none, none⟩
    let album : Album := ⟨"a", [photo ⟨newYear, late, tokyo⟩, photo ⟨eve, .midnight, tokyo⟩]⟩
    album.photos ≠ [] ∧ (∀ p ∈ album.photos, p.timestamp.offset = some ahead) ∧
      search .strict (.str "12/31/2023-01/01/2024") album.photos =
        .ok ⟨"12/31/2023-01/01/2024", some "date_range", [photo ⟨eve, .midnight, tokyo⟩], none⟩ := by
  intro newYear eve late ahead tokyo photo album
  have nonempty : album.photos ≠ [] := List.cons_ne_nil _ _
  have common : ∀ p ∈ album.photos, p.timestamp.offset = some ahead := by
    simp [album, photo, tokyo, Timestamp.offset, Zone.offset]
  obtain ⟨first, last, hf, hl, found⟩ := search_own_days nonempty common .strict
  have first_eq : album.firstTime = .ok (some ⟨eve, .midnight, tokyo⟩) := by decide +kernel
  have last_eq : album.lastTime = .ok (some ⟨newYear, late, tokyo⟩) := by decide +kernel
  cases hf.symm.trans first_eq
  cases hl.symm.trans last_eq
  have text : DayRange.datesText eve newYear = "12/31/2023-01/01/2024" := by decide
  rw [text] at found
  exact ⟨nonempty, common, found⟩

end PhotoSearch
