import PhotoSearch.Proofs.Search.TagText
import PhotoSearch.Proofs.Session.TagRuns

/-!
Searching for tags that photos carry. Storing a tag and asking for it are checked in places of their own,
and accept the same keys and values; so each tag of a photo can be asked for, and what may not be asked
for no photo carries. When a removed tag is no longer found is the other main statement.
-/

namespace PhotoSearch

/-! ### The two checks -/

/-- What reading a tag has against one of its parts. -/
def TokenFault.issue (place : Place) (part : TagPart) : TokenFault → Issue
  | empty => ⟨.emptyToken, (place.field part.word).path⟩
  | blank => ⟨.blankToken, (place.field part.word).path⟩

/-- What a query has against a part with this text. -/
def TokenFault.error (part : TagPart) (text : String) : TokenFault → QueryError
  | empty => .emptyPart part
  | blank => .blankInPart part text

def TagTerm.part (t : TagTerm) : TagPart → String
  | .key => t.key
  | .value => t.value

namespace Reading

/-- A key and a value as the fields of a tag. -/
def ofTerm (t : TagTerm) : Data := .object [("key", .str t.key), ("value", .str t.value)]

theorem token_field (place : Place) (part : TagPart) (s : String) :
    token (place.field part.word) (.str s) =
      match tokenFault? s with
      | none => .good s
      | some f => .bad [f.issue place part] := by
  simp only [token]
  cases tokenFault? s with
  | none => rfl
  | some f => cases f <;> rfl

theorem tag_ofTerm (place : Place) (t : TagTerm) : tag place (ofTerm t) =
    Tag.mk <$> token (place.field TagPart.key.word) (.str t.key) <*>
      token (place.field TagPart.value.word) (.str t.value) := rfl

end Reading

theorem TagTerm.fault?_eq (t : TagTerm) : t.fault? =
    ((tokenFault? t.key).map (TokenFault.error .key t.key)).or
      ((tokenFault? t.value).map (TokenFault.error .value t.value)) := rfl

/-- Reading a tag collects what it has against both parts. A query reports the first of it. -/
theorem Reading.exists_of_tag_bad {place : Place} {t : TagTerm} {issues : List Issue}
    (h : tag place (ofTerm t) = .bad issues) : ∃ part f more,
      issues = TokenFault.issue place part f :: more ∧ t.fault? = some (f.error part (t.part part)) := by
  rw [tag_ofTerm, token_field, token_field] at h
  rw [t.fault?_eq]
  -- A fault of the value comes first only if the key has none.
  cases key : tokenFault? t.key with
  | some f =>
    cases value : tokenFault? t.value with
    | some g =>
      simp only [key, value] at h
      cases h
      exact ⟨.key, f, [g.issue place .value], rfl, rfl⟩
    | none =>
      simp only [key, value] at h
      cases h
      exact ⟨.key, f, [], rfl, rfl⟩
  | none =>
    cases value : tokenFault? t.value with
    | some g =>
      simp only [key, value] at h
      cases h
      exact ⟨.value, g, [], rfl, rfl⟩
    | none =>
      simp only [key, value] at h
      cases h

/-- Key and value are accepted for storing and for asking alike: if they are tokens. Where they are
not, the first issue is that of the part and the fault that the query reports. -/
structure CheckedAlike (place : Place) (t : TagTerm) : Prop where
  accepted : (∃ tag, Reading.tag place (Reading.ofTerm t) = .good tag) ↔ t.fault? = none
  tokens : t.fault? = none ↔ IsToken t.key ∧ IsToken t.value
  refused : ∀ issues, Reading.tag place (Reading.ofTerm t) = .bad issues → ∃ part f more,
    issues = TokenFault.issue place part f :: more ∧ t.fault? = some (f.error part (t.part part))

theorem checkedAlike (place : Place) (t : TagTerm) : CheckedAlike place t where
  accepted := by
    have read : ∀ tag, Reading.tag place (Reading.ofTerm t) = .good tag ↔
        tag = ⟨t.key, t.value⟩ ∧ tag.Valid := fun _ => Reading.tag_fields_eq_good_iff
    simp only [read, exists_eq_left]
    exact t.fault?_eq_none_iff.symm
  tokens := t.fault?_eq_none_iff
  refused _ := Reading.exists_of_tag_bad

/-! ### Photos whose tags were called on -/

/-- The photo after calls on its tags. -/
def Photo.afterAll (p : Photo) (calls : List TagAction) : Photo :=
  { p with tags := p.tags.afterAll calls }

/-- The photo was read from data, and then there were calls on its tags. -/
def Photo.Arises (p : Photo) : Prop :=
  ∃ place data read calls, Reading.photo place data = .good read ∧ p = read.afterAll calls

theorem Photo.Arises.valid {p : Photo} (h : p.Arises) : p.Valid := by
  obtain ⟨place, data, read, calls, good, rfl⟩ := h
  have valid := Reading.ensures_photo place data read good
  exact ⟨TagSet.Valid.afterAll valid.tags calls, valid.timestamp⟩

namespace TagFormula

theorem evaluate_eq_ok_iff {f : TagFormula} {photos found : List Photo} :
    f.evaluate photos = .ok found ↔ f.fault? = none ∧ photos.filter f.holds = found := by
  simp only [evaluate, test]
  cases f.fault? <;> simp [Except.map]

theorem fault?_single (t : TagTerm) : (single t).fault? = t.fault? := by
  simp [fault?, terms]

theorem holds_single_iff (t : TagTerm) (p : Photo) :
    (single t).holds p = true ↔ ⟨t.key, t.value⟩ ∈ p.tags.tags :=
  p.tags.contains_iff t.key t.value

end TagFormula

/-- What a valid photo carries can be asked for. -/
theorem Photo.Valid.fault?_eq_none {p : Photo} (h : p.Valid) {t : TagTerm}
    (carried : (TagFormula.single t).holds p = true) : t.fault? = none :=
  t.fault?_eq_none_iff.2 (h.tags _ ((TagFormula.holds_single_iff t p).1 carried))

/-- Storing a tag and asking for it are checked alike. So each tag that one of the photos carries can be
asked for, which returns the photos that carry it; and a term that is refused holds of none of them. -/
theorem stored_tags_can_be_asked_for {photos : List Photo} (h : ∀ p ∈ photos, p.Arises) :
    (∀ place t, CheckedAlike place t) ∧
    (∀ p ∈ photos, ∀ t ∈ p.tags.tags, (TagFormula.single t.term).evaluate photos =
      .ok (photos.filter fun q => decide (t ∈ q.tags.tags))) ∧
    ∀ t : TagTerm, t.fault? ≠ none → ∀ p ∈ photos, (TagFormula.single t).holds p = false := by
  refine ⟨checkedAlike, fun p hp t ht => ?_, fun t refused p hp => ?_⟩
  · rw [TagFormula.evaluate_eq_ok_iff, TagFormula.fault?_single]
    refine ⟨t.term.fault?_eq_none_iff.2 ((h p hp).valid.tags t ht), List.filter_congr fun q _ => ?_⟩
    rw [Bool.eq_iff_iff, decide_eq_true_eq]
    exact TagFormula.holds_single_iff t.term q
  · rw [← Bool.not_eq_true]
    exact fun carried => refused ((h p hp).valid.fault?_eq_none carried)

/-- A photo with one tag. -/
def inParis : Photo :=
  ⟨.given "p", ⟨Date.epoch, .midnight, none⟩, ⟨[⟨"city", "Paris"⟩]⟩, none, none⟩

/-- A tag is added, and another refused for its blank. The former can be asked for; the latter cannot, and
does not hold. -/
theorem stored_tags_can_be_asked_for_inParis :
    let calls : List TagAction := [.add (.str "city") (.str "Rome"), .add (.str "old town") (.str "x")]
    (inParis.afterAll calls).Arises ∧
    (TagFormula.single ⟨"city", "Rome"⟩).evaluate [inParis.afterAll calls, inParis] =
      .ok [inParis.afterAll calls] ∧
    (TagTerm.mk "old town" "x").fault? ≠ none ∧
    (TagFormula.single ⟨"old town", "x"⟩).holds (inParis.afterAll calls) = false := by
  intro calls
  have read : Reading.photo (.root 0) inParis.toData = .good inParis :=
    Reading.photo_readsBack (by decide) ⟨"p", rfl⟩ _
  have arises : (inParis.afterAll calls).Arises := ⟨_, _, _, calls, read, rfl⟩
  have all : ∀ p ∈ [inParis.afterAll calls, inParis], p.Arises := by
    simp only [List.forall_mem_cons, List.not_mem_nil, false_imp_iff, implies_true, and_true]
    exact ⟨arises, _, _, _, [], read, rfl⟩
  have refused : (TagTerm.mk "old town" "x").fault? ≠ none := by decide
  obtain ⟨-, asked, unasked⟩ := stored_tags_can_be_asked_for all
  refine ⟨arises, ?_, refused, unasked _ refused _ (by simp)⟩
  have found := asked (inParis.afterAll calls) (by simp) ⟨"city", "Rome"⟩ (by decide)
  exact found.trans (congrArg Except.ok (by decide))

/-! ### Tags that were removed -/

/-- The photo does not have the tag, and no search for it returns the photo. -/
def Photo.IsWithout (p : Photo) (key value : String) : Prop :=
  p.tags.contains key value = false ∧ ∀ photos found,
    (TagFormula.single ⟨key, value⟩).evaluate photos = .ok found → p ∉ found

theorem Photo.isWithout_iff (p : Photo) (key value : String) :
    p.IsWithout key value ↔ ⟨key, value⟩ ∉ p.tags.tags := by
  rw [← TagSet.contains_iff, Bool.not_eq_true]
  refine ⟨fun h => h.1, fun absent => ⟨absent, fun photos found evaluated member => ?_⟩⟩
  rw [TagFormula.evaluate_eq_ok_iff] at evaluated
  rw [← evaluated.2, List.mem_filter] at member
  exact absurd (member.2.symm.trans absent) (by decide)

/-- Whenever the tag is removed, whatever calls there were before, the photo is without it. -/
def Photo.Forgets (p : Photo) (key value : String) : Prop :=
  ∀ calls u, (p.tags.afterAll calls).remove? key value = some u →
    Photo.IsWithout { p with tags := u } key value

theorem TagSet.notMem_remove?_iff {s u : TagSet} {key value : String}
    (h : s.remove? key value = some u) :
    ⟨key, value⟩ ∉ u.tags ↔ s.tags.count ⟨key, value⟩ = 1 := by
  obtain ⟨present, erased⟩ := remove?_eq_some_iff.1 h
  have copies := List.count_pos_iff.2 present
  rw [← List.count_eq_zero, erased, List.count_erase_self]
  omega

theorem Photo.isWithout_remove?_iff {p : Photo} {s u : TagSet} {key value : String}
    (h : s.remove? key value = some u) :
    Photo.IsWithout { p with tags := u } key value ↔ s.tags.count ⟨key, value⟩ = 1 := by
  rw [isWithout_iff]
  exact TagSet.notMem_remove?_iff h

theorem Photo.forgets_iff (p : Photo) (key value : String) :
    p.Forgets key value ↔ p.tags.tags.count ⟨key, value⟩ ≤ 1 := by
  constructor
  · intro forgets
    by_cases present : (⟨key, value⟩ : Tag) ∈ p.tags.tags
    · obtain ⟨u, removed⟩ :=
        Option.isSome_iff_exists.1 ((p.tags.isSome_remove?_iff key value).2 present)
      exact ((isWithout_remove?_iff removed).1 (forgets [] u removed)).le
    · rw [List.count_eq_zero.2 present]
      exact Nat.zero_le 1
  · intro once calls u removed
    -- The removal found a copy, and no call can have made a second one.
    have bound := p.tags.count_afterAll_le calls ⟨key, value⟩
    have copies := List.count_pos_iff.2 (TagSet.remove?_eq_some_iff.1 removed).1
    rw [isWithout_remove?_iff removed]
    omega

/-- After a tag is removed the photo is without it exactly if there was one copy. That holds after any
calls exactly if the tags at first, which reading does not look through for repetitions, had no second
copy. -/
theorem removed_tag_is_gone_iff (p : Photo) (key value : String) :
    (∀ calls u, (p.tags.afterAll calls).remove? key value = some u →
      (Photo.IsWithout { p with tags := u } key value ↔
        (p.tags.afterAll calls).tags.count ⟨key, value⟩ = 1)) ∧
    (p.Forgets key value ↔ p.tags.tags.count ⟨key, value⟩ ≤ 1) :=
  ⟨fun _ _ removed => Photo.isWithout_remove?_iff removed, p.forgets_iff key value⟩

/-- Data can give a photo the same tag twice. One of the two is removed, and the other one still found. -/
theorem removed_tag_is_still_found : ∃ p : Photo,
    (∃ place data, Reading.photo place data = .good p) ∧ ¬ p.Forgets "city" "Paris" := by
  have valid : Photo.Valid { inParis with tags := ⟨[⟨"city", "Paris"⟩, ⟨"city", "Paris"⟩]⟩ } := by
    decide
  refine ⟨_, ⟨.root 0, _, Reading.photo_readsBack valid ⟨"p", rfl⟩ _⟩, ?_⟩
  rw [Photo.forgets_iff]
  decide

end PhotoSearch
