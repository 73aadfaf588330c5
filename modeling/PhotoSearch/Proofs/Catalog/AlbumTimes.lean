import Mathlib
import PhotoSearch.Proofs.Record.Validity

/-!
The earliest and the latest timestamp of an album. Both are found in one pass that keeps the best so
far; the pass fails exactly where it meets both naive and aware timestamps, and of several that are
equally early or late it keeps the first. Where photos of one region were taken before and after its
clocks were put back, the order is not that of instants, and need not be one.
-/

namespace PhotoSearch

/-- The item of least value that is found has no other of that value before it. -/
theorem exists_append_of_argmin {α β : Type} [DecidableEq α] [LinearOrder β] {value : α → β}
    {items : List α} {a : α} (h : items.argmin value = some a) :
    (∀ b ∈ items, value a ≤ value b) ∧
      ∃ before behind, items = before ++ a :: behind ∧ ∀ b ∈ before, value a < value b := by
  obtain ⟨member, least, index⟩ := List.argmin_eq_some_iff.1 h
  obtain ⟨before, behind, whole, absent⟩ := List.eq_append_cons_of_mem member
  refine ⟨least, before, behind, whole, fun b earlier => ?_⟩
  have inside : b ∈ items := whole ▸ List.mem_append_left _ earlier
  refine lt_of_le_of_ne (least b inside) fun same => ?_
  -- An equal value further in front would have been chosen.
  have upTo := index b inside same.symm.le
  have position : items.idxOf a = before.length := by
    rw [whole, List.idxOf_append_of_notMem absent, List.idxOf_cons_self, Nat.add_zero]
  have position' : items.idxOf b < before.length := by
    rw [whole, List.idxOf_append_of_mem earlier]
    exact List.idxOf_lt_length_of_mem earlier
  omega

namespace Timestamp

/-! ### Orders -/

/-- Naive timestamps compare by their wall clocks, aware ones by their instants, the wall clock less
the offset. A naive and an aware one do not compare. -/
inductive NoLater (t u : Timestamp) : Prop
  | naive (ht : t.offset = none) (hu : u.offset = none) (order : t.wall ≤ u.wall)
  | aware {o o' : Offset} (ht : t.offset = some o) (hu : u.offset = some o')
    (order : t.wall - o.micros ≤ u.wall - o'.micros)

theorem noLater_iff {t u : Timestamp} :
    t.NoLater u ↔ t.isNaive = u.isNaive ∧ t.instant ≤ u.instant := by
  constructor
  · rintro (⟨ht, hu, order⟩ | ⟨ht, hu, order⟩)
    · simpa [isNaive, instant, ht, hu] using order
    · simpa [isNaive, instant, ht, hu] using order
  · rintro ⟨same, order⟩
    cases ht : t.offset <;> cases hu : u.offset
    · exact .naive ht hu (by simpa [instant, ht, hu] using order)
    · simp [isNaive, ht, hu] at same
    · simp [isNaive, ht, hu] at same
    · exact .aware ht hu (by simpa [instant, ht, hu] using order)

/-- The timestamps are not of one region, or its clocks order them as the instants do. -/
def Steady (t u : Timestamp) : Prop :=
  t.sharesRegion u = true → (t.wall < u.wall ↔ t.instant < u.instant)

theorem precedes_eq_of_steady {t u : Timestamp} (h : t.Steady u) :
    t.precedes u = decide (t.instant < u.instant) := by
  rw [precedes]
  split
  · rename_i shared
    exact decide_eq_decide.2 (h shared)
  · rfl

/-- The zone of the timestamp has one offset at all times, or there is no zone. -/
def OwnsOffset (t : Timestamp) : Prop := ∀ z ∈ t.zone, ∃ o, z = .fixed o

theorem OwnsOffset.sharesRegion_eq {t : Timestamp} (h : t.OwnsOffset) (u : Timestamp) :
    t.sharesRegion u = false := by
  unfold sharesRegion
  split
  · rename_i zone _
    obtain ⟨o, same⟩ := h _ zone
    cases same
  · rfl

/-- Instants order such a timestamp and any other, whichever of the two comes first. -/
theorem OwnsOffset.steady {t : Timestamp} (h : t.OwnsOffset) (u : Timestamp) :
    t.Steady u ∧ u.Steady t := by
  constructor
  · intro shared
    rw [h.sharesRegion_eq] at shared
    cases shared
  · intro shared
    rw [sharesRegion_comm, h.sharesRegion_eq] at shared
    cases shared

theorem Steady.refl (t : Timestamp) : t.Steady t := fun _ => by simp

theorem steady_of_offset_eq {t u : Timestamp} (h : t.offset = u.offset) : t.Steady u := by
  intro _
  simp only [instant, h]
  omega

/-! ### Passes -/

/-- A pass through timestamps that goes over to each one that beats the best so far, and that fails
at the first one of another kind. -/
structure KeepsBest (beats : Timestamp → Timestamp → Bool)
    (pass : Timestamp → List Timestamp → Except MixedTimes Timestamp) : Prop where
  nil : ∀ best, pass best [] = .ok best
  cons : ∀ best t rest, pass best (t :: rest) =
    if best.isNaive = t.isNaive then pass (if beats t best then t else best) rest
    else .error .naiveWithAware

theorem keepsBest_earliest : KeepsBest precedes earliest where
  nil _ := rfl
  cons best t rest := by
    by_cases same : best.isNaive = t.isNaive
    · simp only [earliest, before, if_pos same, if_pos same.symm, bind, Except.bind]
      split <;> rfl
    · simp only [earliest, before, if_neg same, if_neg (Ne.symm same), bind, Except.bind]

theorem keepsBest_latest : KeepsBest (fun t best => best.precedes t) latest where
  nil _ := rfl
  cons best t rest := by
    by_cases same : best.isNaive = t.isNaive
    · simp only [latest, before, if_pos same, bind, Except.bind]
      split <;> rfl
    · simp only [latest, before, if_neg same, bind, Except.bind]

section Pass

variable {beats : Timestamp → Timestamp → Bool}
  {pass : Timestamp → List Timestamp → Except MixedTimes Timestamp}

theorem ite_isNaive {t best : Timestamp} (same : best.isNaive = t.isNaive) (b : Bool) :
    (if b then t else best).isNaive = best.isNaive := by
  cases b
  · rfl
  · exact same.symm

/-- A pass through timestamps of one kind ends with one that none behind it beats. -/
theorem KeepsBest.of_alike (h : KeepsBest beats pass) {best : Timestamp} {rest : List Timestamp}
    (alike : ∀ t ∈ rest, t.isNaive = best.isNaive) :
    ∃ before t behind, best :: rest = before ++ t :: behind ∧ pass best rest = .ok t ∧
      ∀ u ∈ behind, beats u t = false := by
  induction rest generalizing best with
  | nil => exact ⟨[], best, [], rfl, h.nil best, fun _ member => nomatch member⟩
  | cons t rest ih =>
    have same : best.isNaive = t.isNaive := (alike t List.mem_cons_self).symm
    have kind : ∀ u ∈ rest, u.isNaive = (if beats t best then t else best).isNaive := by
      intro u member
      rw [ite_isNaive same]
      exact alike u (List.mem_cons_of_mem t member)
    obtain ⟨before, kept, behind, whole, passed, stays⟩ := ih kind
    rw [h.cons, if_pos same]
    by_cases beaten : beats t best = true
    · rw [if_pos beaten] at whole passed ⊢
      exact ⟨best :: before, kept, behind, by rw [whole]; rfl, passed, stays⟩
    · rw [if_neg beaten] at whole passed ⊢
      cases before with
      | nil =>
        obtain ⟨rfl, rfl⟩ := List.cons.inj whole
        refine ⟨[], best, t :: rest, rfl, passed, List.forall_mem_cons.2 ⟨?_, stays⟩⟩
        exact Bool.eq_false_of_not_eq_true beaten
      | cons first before =>
        obtain ⟨rfl, rest_eq⟩ := List.cons.inj whole
        exact ⟨best :: t :: before, kept, behind, by rw [rest_eq]; rfl, passed, stays⟩

/-- Where one timestamp beats another exactly by a smaller value, the pass ends with the least. -/
theorem KeepsBest.argmin_eq {β : Type} [LinearOrder β] (value : Timestamp → β)
    (h : KeepsBest beats pass) {best kept : Timestamp} {rest : List Timestamp}
    (byValue : ∀ t ∈ best :: rest, ∀ u ∈ best :: rest, beats t u = decide (value t < value u))
    (passed : pass best rest = .ok kept) : (best :: rest).argmin value = some kept := by
  induction rest generalizing best with
  | nil =>
    rw [h.nil] at passed
    cases passed
    rfl
  | cons t rest ih =>
    rw [h.cons] at passed
    split at passed
    · have beaten := byValue t (by simp) best List.mem_cons_self
      have step : (best :: t :: rest).argmin value =
          ((if beats t best then t else best) :: rest).argmin value := by
        by_cases less : value t < value best <;> simp [List.argmin, List.argAux, beaten, less]
      have among : ∀ u ∈ (if beats t best then t else best) :: rest, u ∈ best :: t :: rest := by
        intro u member
        rcases List.mem_cons.1 member with rfl | member
        · split <;> simp
        · simp [member]
      rw [step]
      exact ih (fun u hu v hv => byValue u (among u hu) v (among v hv)) passed
    · cases passed

end Pass

end Timestamp

/-- The first of the photos whose timestamp stands in this relation to the timestamp of each. -/
structure IsFirst (rel : Timestamp → Timestamp → Prop) (photos : List Photo) (p : Photo) : Prop where
  all : ∀ q ∈ photos, rel p.timestamp q.timestamp
  first : ∃ before behind, photos = before ++ p :: behind ∧
    ∀ q ∈ before, ∃ u ∈ photos, ¬ rel q.timestamp u.timestamp

theorem IsFirst.mem {rel : Timestamp → Timestamp → Prop} {photos : List Photo} {p : Photo}
    (h : IsFirst rel photos p) : p ∈ photos := by
  obtain ⟨before, behind, whole, -⟩ := h.first
  rw [whole]
  exact List.mem_append_right _ List.mem_cons_self

namespace Album

variable {a : Album}

/-- The album holds a naive timestamp and an aware one. -/
def IsMixed (a : Album) : Prop :=
  (∃ p ∈ a.photos, p.timestamp.offset = none) ∧ ∃ p ∈ a.photos, p.timestamp.offset ≠ none

theorem isMixed_iff (a : Album) : a.IsMixed ↔
    ∃ p ∈ a.photos, ∃ q ∈ a.photos, q.timestamp.isNaive ≠ p.timestamp.isNaive := by
  constructor
  · rintro ⟨⟨p, hp, naive⟩, q, hq, aware⟩
    exact ⟨p, hp, q, hq, by simp [Timestamp.isNaive, naive, aware]⟩
  · rintro ⟨p, hp, q, hq, other⟩
    cases naive : p.timestamp.offset with
    | none => exact ⟨⟨p, hp, naive⟩, q, hq, by simpa [Timestamp.isNaive, naive] using other⟩
    | some o =>
      exact ⟨⟨q, hq, by simpa [Timestamp.isNaive, naive] using other⟩, p, hp, by simp [naive]⟩

theorem isNaive_eq (alike : ¬ a.IsMixed) {p q : Photo} (hp : p ∈ a.photos) (hq : q ∈ a.photos) :
    p.timestamp.isNaive = q.timestamp.isNaive :=
  Classical.byContradiction fun other => alike (a.isMixed_iff.2 ⟨q, hq, p, hp, other⟩)

theorem not_isMixed_of_alike {naive : Bool}
    (alike : ∀ p ∈ a.photos, p.timestamp.isNaive = naive) : ¬ a.IsMixed := by
  rw [isMixed_iff]
  rintro ⟨p, hp, q, hq, other⟩
  exact other ((alike q hq).trans (alike p hp).symm)

/-- No two photos were taken by the clocks of one region in such a way that these order them otherwise
than the instants do. -/
def IsSteady (a : Album) : Prop :=
  ∀ p ∈ a.photos, ∀ q ∈ a.photos, p.timestamp.Steady q.timestamp

section Pass

variable {beats : Timestamp → Timestamp → Bool}
  {pass : Timestamp → List Timestamp → Except MixedTimes Timestamp}

/-- The timestamp that a pass ends with, if there are photos. -/
def timeBy (pass : Timestamp → List Timestamp → Except MixedTimes Timestamp) (a : Album) :
    Except MixedTimes (Option Timestamp) :=
  match a.photos.map Photo.timestamp with
  | [] => .ok none
  | t :: rest => (pass t rest).map some

/-- What a pass ends with is the time of a photo that none behind it beats. -/
theorem exists_timeBy_eq (h : Timestamp.KeepsBest beats pass) (nonempty : a.photos ≠ [])
    (alike : ¬ a.IsMixed) : ∃ before p behind, a.photos = before ++ p :: behind ∧
      a.timeBy pass = .ok (some p.timestamp) ∧
      ∀ q ∈ behind, beats q.timestamp p.timestamp = false := by
  obtain ⟨first, rest, photos⟩ := List.exists_cons_of_ne_nil nonempty
  have kind : ∀ t ∈ rest.map Photo.timestamp, t.isNaive = first.timestamp.isNaive := by
    intro t member
    obtain ⟨q, hq, rfl⟩ := List.mem_map.1 member
    exact isNaive_eq alike (by simp [photos, hq]) (by simp [photos])
  obtain ⟨before, t, behind, whole, passed, stays⟩ := h.of_alike kind
  rw [← List.map_cons, ← photos] at whole
  obtain ⟨front, back, parts, rfl, tail⟩ := List.map_eq_append_iff.1 whole
  obtain ⟨p, back, rfl, rfl, rfl⟩ := List.map_eq_cons_iff.1 tail
  refine ⟨front, p, back, parts, ?_, fun q hq => stays _ (List.mem_map_of_mem hq)⟩
  simp only [timeBy, photos, List.map_cons, passed, Except.map]

/-- A pass that goes by values ends with the time of the first photo that stands to all photos in the
relation which compares values. -/
theorem exists_isFirst {β : Type} [LinearOrder β] (value : Timestamp → β)
    (h : Timestamp.KeepsBest beats pass)
    (byValue : ∀ p ∈ a.photos, ∀ q ∈ a.photos,
      beats p.timestamp q.timestamp = decide (value p.timestamp < value q.timestamp))
    {rel : Timestamp → Timestamp → Prop}
    (compares : ∀ p ∈ a.photos, ∀ q ∈ a.photos,
      rel p.timestamp q.timestamp ↔ value p.timestamp ≤ value q.timestamp)
    (nonempty : a.photos ≠ []) (alike : ¬ a.IsMixed) :
    ∃ p, IsFirst rel a.photos p ∧ a.timeBy pass = .ok (some p.timestamp) := by
  obtain ⟨-, kept, -, -, ended, -⟩ := exists_timeBy_eq h nonempty alike
  obtain ⟨first, rest, photos⟩ := List.exists_cons_of_ne_nil nonempty
  have passed : pass first.timestamp (rest.map Photo.timestamp) = .ok kept.timestamp := by
    cases result : pass first.timestamp (rest.map Photo.timestamp) <;>
      simp_all [timeBy, Except.map]
  have least := h.argmin_eq value (by simpa [photos] using byValue) passed
  rw [← List.map_cons, ← photos] at least
  obtain ⟨bound, before, behind, whole, greater⟩ := exists_append_of_argmin least
  obtain ⟨front, back, parts, rfl, tail⟩ := List.map_eq_append_iff.1 whole
  obtain ⟨p, back, rfl, time, rfl⟩ := List.map_eq_cons_iff.1 tail
  have member : p ∈ a.photos := by simp [parts]
  rw [← time] at ended bound greater
  refine ⟨p, ⟨fun q hq => ?_, front, back, parts, fun q hq => ⟨p, member, fun related => ?_⟩⟩, ended⟩
  · exact (compares p member q hq).2 (bound _ (List.mem_map_of_mem hq))
  · have among : q ∈ a.photos := by simp [parts, hq]
    exact (greater _ (List.mem_map_of_mem hq)).not_ge ((compares q among p member).1 related)

end Pass

/-! ### The two ends -/

theorem exists_firstTime (steady : a.IsSteady) (nonempty : a.photos ≠ []) (alike : ¬ a.IsMixed) :
    ∃ p, IsFirst Timestamp.NoLater a.photos p ∧ a.firstTime = .ok (some p.timestamp) :=
  exists_isFirst Timestamp.instant Timestamp.keepsBest_earliest
    (fun p hp q hq => Timestamp.precedes_eq_of_steady (steady p hp q hq))
    (fun _ hp _ hq => Timestamp.noLater_iff.trans (and_iff_right (isNaive_eq alike hp hq)))
    nonempty alike

theorem exists_lastTime (steady : a.IsSteady) (nonempty : a.photos ≠ []) (alike : ¬ a.IsMixed) :
    ∃ p, IsFirst (fun t u => u.NoLater t) a.photos p ∧ a.lastTime = .ok (some p.timestamp) :=
  exists_isFirst (OrderDual.toDual ∘ Timestamp.instant) Timestamp.keepsBest_latest
    (fun p hp q hq => Timestamp.precedes_eq_of_steady (steady q hq p hp))
    (fun _ hp _ hq => Timestamp.noLater_iff.trans (and_iff_right (isNaive_eq alike hq hp)))
    nonempty alike

/-- Nine in the morning in Tokyo and midnight in universal time are one instant, and both ends of these
two photos are the time of the photo that comes first. -/
example :
    let newYear : Date := ⟨2024, 1, 1, by decide, by decide, by decide⟩
    let nine : TimeOfDay := ⟨9, 0, 0, 0, by decide, by decide, by decide, by decide⟩
    let tokyo : Timestamp := ⟨newYear, nine, some (.fixed (.ofMinutes 540 (by decide)))⟩
    let photo (time : Timestamp) : Photo := ⟨.given "p", time, ⟨[]⟩, none, none⟩
    let album : Album := ⟨"a", [photo tokyo, photo ⟨newYear, .midnight, some (.fixed .utc)⟩]⟩
    album.firstTime = .ok (some tokyo) ∧ album.lastTime = .ok (some tokyo) := ⟨rfl, rfl⟩

/-- A quarter to two in New York, and a quarter past one after the clocks were put back. The second is
the later instant, but the first time of the two by those clocks. -/
example :
    let day : Date := ⟨2024, 11, 3, by decide, by decide, by decide⟩
    let newYork (minutes : Int) (h : -1440 < minutes ∧ minutes < 1440) : Option Zone :=
      some (.region "America/New_York" (.ofMinutes minutes h))
    let summer : Timestamp :=
      ⟨day, ⟨1, 45, 0, 0, by decide, by decide, by decide, by decide⟩, newYork (-240) (by decide)⟩
    let winter : Timestamp :=
      ⟨day, ⟨1, 15, 0, 0, by decide, by decide, by decide, by decide⟩, newYork (-300) (by decide)⟩
    let photo (time : Timestamp) : Photo := ⟨.given "p", time, ⟨[]⟩, none, none⟩
    let album : Album := ⟨"a", [photo summer, photo winter]⟩
    summer.instant < winter.instant ∧ album.firstTime = .ok (some winter) := ⟨by decide, rfl⟩

end Album

end PhotoSearch
