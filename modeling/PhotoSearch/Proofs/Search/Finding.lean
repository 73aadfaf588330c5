import PhotoSearch.Proofs.Search.Outcome

/-!
What a search makes of its photos. Its kind and its error do not depend on them, a photo is found if
it meets what the query asks for, and of a photo only the wall clock and the tag pairs matter.
-/

namespace PhotoSearch

/-- Kind and error belong to the text and the mode; the photos are only filtered. -/
theorem search_text_eq_filter (mode : DateMode) (s : String) : ∃ kind error, ∀ photos,
    search mode (.str s) photos = .ok ⟨s, kind, photos.filter (finds mode (.str s)), error⟩ := by
  cases hq : Query.read (.str s) with
  | error e =>
    refine ⟨none, some (.ofQueryError e), fun photos => ?_⟩
    have nothing : finds mode (.str s) = fun _ => false := by
      funext p
      simp only [finds, hq]
    rw [search, hq, nothing, List.filter_false]
    rfl
  | ok q =>
    cases ht : q.test mode with
    | ok p =>
      refine ⟨some q.kind, none, fun photos => ?_⟩
      have same : finds mode (.str s) = p := by
        funext photo
        simp only [finds, hq, ht]
      have found : q.evaluate mode photos = .ok (photos.filter p) := by
        rw [Query.evaluate, ht, Except.map]
      rw [search, hq, same]
      exact searchRead_of_evaluate found _
    | error f =>
      have failed : ∀ photos, q.evaluate mode photos = .error f := fun photos => by
        rw [Query.evaluate, ht, Except.map]
      obtain ⟨r, e, -, rfl, -⟩ := (Query.read_str_eq_ok_iff.1 hq).error_of_evaluate (failed [])
      refine ⟨some q.kind, some (.ofQueryError e), fun photos => ?_⟩
      have nothing : finds mode (.str s) = fun _ => false := by
        funext p
        simp only [finds, hq, ht]
      rw [search, hq, nothing, List.filter_false]
      exact searchRead_of_evaluate_error (failed photos) _

theorem exists_search_text (mode : DateMode) (s : String) (photos : List Photo) :
    ∃ o, search mode (.str s) photos = .ok o := by
  obtain ⟨kind, error, outcome⟩ := search_text_eq_filter mode s
  exact ⟨_, outcome photos⟩

/-- Only what is a query is searched for without an error. -/
theorem read_of_search {mode : DateMode} {raw : Data} {photos : List Photo} {o : Outcome}
    (h : search mode raw photos = .ok o) (succeeds : o.error = none) :
    ∃ q, Query.read raw = .ok q := by
  cases hq : Query.read raw with
  | ok q => exact ⟨q, rfl⟩
  | error e =>
    rw [search, hq] at h
    cases h
    cases succeeds

/-! ### What a query asks for -/

/-- The tags that the terms ask for are there: both of them, or one of them. -/
def TagFormula.Meets : TagFormula → Photo → Prop
  | single t, p => ⟨t.key, t.value⟩ ∈ p.tags.tags
  | combined left right .and, p =>
    ⟨left.key, left.value⟩ ∈ p.tags.tags ∧ ⟨right.key, right.value⟩ ∈ p.tags.tags
  | combined left right .or, p =>
    ⟨left.key, left.value⟩ ∈ p.tags.tags ∨ ⟨right.key, right.value⟩ ∈ p.tags.tags

theorem TagFormula.holds_iff_meets (f : TagFormula) (p : Photo) : f.holds p = true ↔ f.Meets p := by
  cases f with
  | single t => exact TagSet.contains_iff p.tags t.key t.value
  | combined left right op =>
    cases op with
    | and =>
      simp only [holds, Connective.apply, TagTerm.holds, Bool.and_eq_true, TagSet.contains_iff,
        Meets]
    | or =>
      simp only [holds, Connective.apply, TagTerm.holds, Bool.or_eq_true, TagSet.contains_iff,
        Meets]

/-- A range asks for a wall clock that shows one of the days between its dates. -/
def Query.Meets (q : Query) (mode : DateMode) (p : Photo) : Prop :=
  match q with
  | dates r => ∃ first last, r.start.resolve mode = .ok first ∧ r.finish.resolve mode = .ok last ∧
      p.timestamp.OnDays first last
  | tags f => f.Meets p

theorem DayRange.contains_iff_meets {r : DayRange} {mode : DateMode} {span : Span}
    (h : r.resolve mode = .ok span) (p : Photo) :
    span.contains p.timestamp = true ↔ (Query.dates r).Meets mode p := by
  obtain ⟨start, finish, -⟩ := resolve_eq_ok_iff.1 h
  rw [Span.contains_iff_onDays]
  constructor
  · exact fun onDays => ⟨span.first, span.last, start, finish, onDays⟩
  · rintro ⟨first, last, start', finish', onDays⟩
    cases start.symm.trans start'
    cases finish.symm.trans finish'
    exact onDays

/-- Where a range cannot be resolved no photo meets it: dates in the wrong order have no day between
them. -/
theorem DayRange.not_meets {r : DayRange} {mode : DateMode} {f : Fault}
    (h : r.resolve mode = .error f) (p : Photo) : ¬ (Query.dates r).Meets mode p := by
  rintro ⟨first, last, start, finish, onDays⟩
  have order : first ≤ last := onDays.1.1.trans onDays.1.2
  have resolved : r.resolve mode = .ok ⟨first, last⟩ := resolve_eq_ok_iff.2 ⟨start, finish, order⟩
  rw [resolved] at h
  cases h

/-- A search for a text finds the photos that meet the query it was read as. -/
theorem finds_iff_meets {mode : DateMode} {s : String} {q : Query}
    (hq : Query.read (.str s) = .ok q) (p : Photo) :
    finds mode (.str s) p = true ↔ q.Meets mode p := by
  simp only [finds, hq]
  cases q with
  | dates r =>
    simp only [Query.test, DayRange.test]
    cases resolved : r.resolve mode with
    | error f => simpa [Except.map] using DayRange.not_meets resolved p
    | ok span => exact DayRange.contains_iff_meets resolved p
  | tags f =>
    have plain : f.fault? = none := (Query.read_str_eq_ok_iff.1 hq).1.fault?
    simp only [Query.test, TagFormula.test, plain]
    exact f.holds_iff_meets p

/-! ### Photos that a search does not tell apart -/

section Alike

variable {p q : Photo}

theorem Span.contains_congr (h : p.timestamp.wall = q.timestamp.wall) (span : Span) :
    span.contains p.timestamp = span.contains q.timestamp := by
  simp only [Span.contains, h]

theorem TagFormula.holds_congr
    (h : ∀ key value, p.tags.contains key value = q.tags.contains key value) (f : TagFormula) :
    f.holds p = f.holds q := by
  cases f with
  | single t => exact h t.key t.value
  | combined left right op =>
    simp only [TagFormula.holds, TagTerm.holds, h]

/-- A search does not tell photos apart that show the same time and carry the same pairs. -/
theorem finds_congr (time : p.timestamp.wall = q.timestamp.wall)
    (pairs : ∀ key value, p.tags.contains key value = q.tags.contains key value)
    (mode : DateMode) (raw : Data) : finds mode raw p = finds mode raw q := by
  simp only [finds]
  cases Query.read raw with
  | error e => rfl
  | ok query =>
    cases query with
    | dates r =>
      simp only [Query.test, DayRange.test]
      cases r.resolve mode with
      | error f => rfl
      | ok span => exact Span.contains_congr time span
    | tags f =>
      simp only [Query.test, TagFormula.test]
      cases f.fault? with
      | some e => rfl
      | none => exact TagFormula.holds_congr pairs f

end Alike

end PhotoSearch
