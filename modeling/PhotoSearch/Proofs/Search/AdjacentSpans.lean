import PhotoSearch.Proofs.Calendar.NextDay
import PhotoSearch.Proofs.Search.DaySpan
import PhotoSearch.Proofs.Search.Pointwise

/-!
A range of dates, cut between two days. What the two parts find is found by the whole, and nothing by both
of them. The whole finds more only in the last second of the first part, which its end leaves open.
-/

namespace PhotoSearch

/-- Two ascending lists of positions that have none in common are merged to an ascending list. -/
theorem pairwise_lt_merge {early late : List Nat} (he : early.Pairwise (· < ·))
    (hl : late.Pairwise (· < ·)) (apart : early.Disjoint late) :
    (early.merge late).Pairwise (· < ·) := by
  have ascending : (early.merge late).Pairwise (· ≤ ·) := by
    have sorted : (early.merge late).Pairwise fun i j => decide (i ≤ j) = true :=
      List.pairwise_merge (by simpa using fun a b c => Nat.le_trans) (by simpa using Nat.le_total)
        early late (by simpa using he.imp Nat.le_of_lt) (by simpa using hl.imp Nat.le_of_lt)
    simpa using sorted
  have distinct : (early.merge late).Nodup :=
    (List.merge_perm_append _).nodup_iff.2 (he.nodup.append hl.nodup apart)
  exact ascending.imp₂ (fun _ _ le ne => Nat.lt_of_le_of_ne le ne) distinct

/-! ### The bounds of days -/

theorem wall_midnight (d : Date) : (Timestamp.mk d .midnight none).wall = d.ordinal * 86400000000 := by
  have early : TimeOfDay.midnight.micros = 0 := by decide
  simp only [Timestamp.wall, early, TimeOfDay.microsPerDay]
  omega

theorem wall_lastSecond (d : Date) :
    (Timestamp.mk d .lastSecond none).wall = d.ordinal * 86400000000 + 86399000000 := by
  have late : TimeOfDay.lastSecond.micros = 86399000000 := by decide
  simp only [Timestamp.wall, late, TimeOfDay.microsPerDay]
  omega

/-! ### Positions that a range finds -/

section Found

variable {mode : DateMode} {photos : List Photo} {first last : Date}

/-- The positions of the photos that searching for the text of two dates finds. -/
def foundOn (mode : DateMode) (photos : List Photo) (first last : Date) : List Nat :=
  foundAt mode (.str (DayRange.datesText first last)) photos

theorem finds_datesText (h : first ≤ last) (mode : DateMode) (p : Photo) :
    finds mode (.str (DayRange.datesText first last)) p =
      (⟨first, last⟩ : Span).contains p.timestamp := by
  simp only [finds, DayRange.read_datesText, Query.test, DayRange.test, DayRange.resolve_ofDates,
    if_neg (not_lt.2 h), Except.map]

theorem mem_foundOn_iff (h : first ≤ last) {i : Nat} : i ∈ foundOn mode photos first last ↔
    ∃ p, photos[i]? = some p ∧ (Timestamp.mk first .midnight none).wall ≤ p.timestamp.wall ∧
      p.timestamp.wall ≤ (Timestamp.mk last .lastSecond none).wall := by
  rw [foundOn, foundAt, List.mem_findIdxs_iff_exists_getElem_pos]
  simp only [finds_datesText h, Span.contains_iff, Span.start, Span.finish]
  constructor
  · rintro ⟨inside, found⟩
    exact ⟨photos[i], List.getElem?_eq_getElem inside, found⟩
  · rintro ⟨p, here, found⟩
    obtain ⟨inside, rfl⟩ := List.getElem?_eq_some_iff.1 here
    exact ⟨inside, found⟩

theorem foundOn_subset {outerFirst outerLast : Date} (h : first ≤ last) (below : outerFirst ≤ first)
    (above : last ≤ outerLast) :
    foundOn mode photos first last ⊆ foundOn mode photos outerFirst outerLast := by
  intro i found
  obtain ⟨p, here, behind, before⟩ := (mem_foundOn_iff h).1 found
  have below' := Date.ordinal_le_ordinal_iff.2 below
  have above' := Date.ordinal_le_ordinal_iff.2 above
  refine (mem_foundOn_iff ((below.trans h).trans above)).2 ⟨p, here, ?_, ?_⟩
  · rw [wall_midnight] at behind ⊢
    omega
  · rw [wall_lastSecond] at before ⊢
    omega

theorem foundOn_disjoint {middle next : Date} (early : first ≤ middle) (apart : middle < next)
    (late : next ≤ last) :
    (foundOn mode photos first middle).Disjoint (foundOn mode photos next last) := by
  intro i foundEarly foundLate
  obtain ⟨p, here, -, before⟩ := (mem_foundOn_iff early).1 foundEarly
  obtain ⟨q, here', behind, -⟩ := (mem_foundOn_iff late).1 foundLate
  cases here.symm.trans here'
  have order := Date.ordinal_lt_ordinal_iff.2 apart
  rw [wall_lastSecond] at before
  rw [wall_midnight] at behind
  omega

theorem pairwise_foundOn : (foundOn mode photos first last).Pairwise (· < ·) :=
  List.pairwise_findIdxs

theorem search_datesText_eq_foundOn (h : first ≤ last) (mode : DateMode) (photos : List Photo) :
    search mode (.str (DayRange.datesText first last)) photos =
      .ok ⟨DayRange.datesText first last, some "date_range",
        (foundOn mode photos first last).filterMap (photos[·]?), none⟩ := by
  have same : (fun p : Photo => decide (p.timestamp.OnDays first last)) =
      finds mode (.str (DayRange.datesText first last)) := by
    funext p
    rw [finds_datesText h, Bool.eq_iff_iff, decide_eq_true_eq, Span.contains_iff_onDays]
  rw [search_datesText_of_le h, same, foundOn, foundAt, filterMap_findIdxs]

end Found

/-! ### Cutting a range -/

section Cut

variable {mode : DateMode} {photos : List Photo} {first middle next last : Date}

/-- The wall clock shows a time after 23:59:59 of the one day, and before the other day begins. -/
def Timestamp.Between (t : Timestamp) (day next : Date) : Prop :=
  (Timestamp.mk day .lastSecond none).wall < t.wall ∧
    t.wall < (Timestamp.mk next .midnight none).wall

/-- The positions that the whole range finds and neither of its parts. -/
def passedOver (mode : DateMode) (photos : List Photo) (first middle next last : Date) : List Nat :=
  (foundOn mode photos first last).filter fun i =>
    decide (i ∉ foundOn mode photos first middle ∧ i ∉ foundOn mode photos next last)

theorem mem_passedOver_iff {i : Nat} : i ∈ passedOver mode photos first middle next last ↔
    i ∈ foundOn mode photos first last ∧
      i ∉ foundOn mode photos first middle ∧ i ∉ foundOn mode photos next last := by
  rw [passedOver, List.mem_filter, decide_eq_true_eq]

/-- What three searches find: from the first date to the middle one, from the date after it to the last,
and from the first to the last. -/
structure SplitsAt (mode : DateMode) (photos : List Photo) (first middle next last : Date) : Prop where
  early : search mode (.str (DayRange.datesText first middle)) photos =
    .ok ⟨DayRange.datesText first middle, some "date_range",
      (foundOn mode photos first middle).filterMap (photos[·]?), none⟩
  late : search mode (.str (DayRange.datesText next last)) photos =
    .ok ⟨DayRange.datesText next last, some "date_range",
      (foundOn mode photos next last).filterMap (photos[·]?), none⟩
  whole : search mode (.str (DayRange.datesText first last)) photos =
    .ok ⟨DayRange.datesText first last, some "date_range",
      (foundOn mode photos first last).filterMap (photos[·]?), none⟩
  disjoint : (foundOn mode photos first middle).Disjoint (foundOn mode photos next last)
  early_subset : foundOn mode photos first middle ⊆ foundOn mode photos first last
  late_subset : foundOn mode photos next last ⊆ foundOn mode photos first last
  neither_iff : ∀ i ∈ foundOn mode photos first last,
    (i ∉ foundOn mode photos first middle ∧ i ∉ foundOn mode photos next last) ↔
      ∃ p, photos[i]? = some p ∧ p.timestamp.Between middle next
  merged : ((foundOn mode photos first middle).merge
    (passedOver mode photos first middle next last)).merge (foundOn mode photos next last) =
      foundOn mode photos first last
  open_second : (Timestamp.mk next .midnight none).wall =
    (Timestamp.mk middle .lastSecond none).wall + 1000000

theorem merge_passedOver
    (apart : (foundOn mode photos first middle).Disjoint (foundOn mode photos next last))
    (early : foundOn mode photos first middle ⊆ foundOn mode photos first last)
    (late : foundOn mode photos next last ⊆ foundOn mode photos first last) :
    ((foundOn mode photos first middle).merge
      (passedOver mode photos first middle next last)).merge (foundOn mode photos next last) =
        foundOn mode photos first last := by
  have apart₁ : (foundOn mode photos first middle).Disjoint
      (passedOver mode photos first middle next last) :=
    fun i hi hp => (mem_passedOver_iff.1 hp).2.1 hi
  have apart₂ : ((foundOn mode photos first middle).merge
      (passedOver mode photos first middle next last)).Disjoint (foundOn mode photos next last) := by
    intro i hi hl
    rcases List.mem_merge.1 hi with he | hp
    · exact apart he hl
    · exact (mem_passedOver_iff.1 hp).2.2 hl
  have kept : (passedOver mode photos first middle next last).Pairwise (· < ·) :=
    pairwise_foundOn.filter _
  -- Both sides ascend, so they are the same list if they have the same positions.
  have ascending :=
    pairwise_lt_merge (pairwise_lt_merge pairwise_foundOn kept apart₁) pairwise_foundOn apart₂
  refine ascending.eq_of_mem_iff pairwise_foundOn fun i => ?_
  rw [List.mem_merge, List.mem_merge, mem_passedOver_iff]
  constructor
  · rintro ((he | hp) | hl)
    · exact early he
    · exact hp.1
    · exact late hl
  · intro hw
    by_cases he : i ∈ foundOn mode photos first middle
    · exact .inl (.inl he)
    · by_cases hl : i ∈ foundOn mode photos next last
      · exact .inr hl
      · exact .inl (.inr ⟨hw, he, hl⟩)

end Cut

/-- A range of dates is cut after one of its days. The two parts find no photo in common, and the whole
finds what they find and the photos in the second that is left open between them. -/
theorem adjacent_ranges_partition {first middle last : Date} (order : first ≤ middle)
    (more : middle < last) (mode : DateMode) (photos : List Photo) :
    ∃ next, middle ⋖ next ∧ next ≤ last ∧ SplitsAt mode photos first middle next last := by
  obtain ⟨next, after, upTo⟩ := Date.exists_covBy more
  have number := Date.covBy_iff.1 after
  have whole : first ≤ last := order.trans more.le
  have disjoint : (foundOn mode photos first middle).Disjoint (foundOn mode photos next last) :=
    foundOn_disjoint order after.lt upTo
  have early : foundOn mode photos first middle ⊆ foundOn mode photos first last :=
    foundOn_subset order le_rfl more.le
  have late : foundOn mode photos next last ⊆ foundOn mode photos first last :=
    foundOn_subset upTo (order.trans after.le) le_rfl
  refine ⟨next, after, upTo, search_datesText_eq_foundOn order mode photos,
    search_datesText_eq_foundOn upTo mode photos, search_datesText_eq_foundOn whole mode photos,
    disjoint, early, late, ?_, merge_passedOver disjoint early late, ?_⟩
  · intro i found
    obtain ⟨p, here, behind, before⟩ := (mem_foundOn_iff whole).1 found
    -- Within the whole range, the early part fails only at its end and the late part at its start.
    simp only [mem_foundOn_iff order, mem_foundOn_iff upTo, here, Option.some.injEq, exists_eq_left',
      Timestamp.Between, wall_midnight, wall_lastSecond] at behind before ⊢
    omega
  · rw [wall_midnight, wall_lastSecond]
    omega

/-- The first day after the leap day is the first of March. The photo of the last microsecond before it
is found by the whole range only. -/
theorem adjacent_ranges_partition_leapDay :
    let first : Date := ⟨2024, 2, 1, by decide, by decide, by decide⟩
    let leapDay : Date := ⟨2024, 2, 29, by decide, by decide, by decide⟩
    let march : Date := ⟨2024, 3, 1, by decide, by decide, by decide⟩
    let last : Date := ⟨2024, 12, 31, by decide, by decide, by decide⟩
    let late : TimeOfDay := ⟨23, 59, 59, 999999, by decide, by decide, by decide, by decide⟩
    let photo (name : String) (time : Timestamp) : Photo := ⟨.given name, time, ⟨[]⟩, none, none⟩
    let photos := [photo "march" ⟨march, .midnight, some (.fixed .utc)⟩, photo "open" ⟨leapDay, late, none⟩,
      photo "leapDay" ⟨leapDay, .lastSecond, none⟩]
    first ≤ leapDay ∧ leapDay < last ∧ SplitsAt .lenient photos first leapDay march last ∧
      1 ∈ passedOver .lenient photos first leapDay march last := by
  intro first leapDay march last late photo photos
  have order : first ≤ leapDay := Date.ordinal_le_ordinal_iff.1 (by decide)
  have more : leapDay < last := Date.ordinal_lt_ordinal_iff.1 (by decide)
  obtain ⟨next, after, -, splits⟩ := adjacent_ranges_partition order more .lenient photos
  have number : march.ordinal = leapDay.ordinal + 1 := by decide
  obtain rfl : next = march := Date.ordinal_inj.1 ((Date.covBy_iff.1 after).trans number.symm)
  have found : 1 ∈ foundOn .lenient photos first last :=
    (mem_foundOn_iff (order.trans more.le)).2 ⟨_, rfl, by decide, by decide⟩
  refine ⟨order, more, splits, mem_passedOver_iff.2 ⟨found, ?_⟩⟩
  exact (splits.neither_iff 1 found).2 ⟨_, rfl, by decide, by decide⟩

end PhotoSearch
