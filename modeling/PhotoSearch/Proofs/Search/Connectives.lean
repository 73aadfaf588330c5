import PhotoSearch.Proofs.Search.TagText

/-!
Connectives between terms. Searching for two terms joined by a connective comes to the meet or to the
union of what is found for each of them, photo by photo; the two tags that are asked for may be
different tags of one photo.
-/

namespace PhotoSearch

/-- Each item that meets both conditions is counted twice on either side. -/
theorem length_filter_and_add_length_filter_or {α : Type} (p q : α → Bool) (items : List α) :
    (items.filter fun a => p a && q a).length + (items.filter fun a => p a || q a).length =
      (items.filter p).length + (items.filter q).length := by
  induction items with
  | nil => rfl
  | cons a rest ih =>
    cases hp : p a <;> cases hq : q a <;> simp [hp, hq] <;> omega

/-- One single tag of the photo has both the key and the value. -/
def TagTerm.Carried (t : TagTerm) (p : Photo) : Prop :=
  ∃ tag ∈ p.tags.tags, tag.key = t.key ∧ tag.value = t.value

theorem TagTerm.holds_iff_carried (t : TagTerm) (p : Photo) : t.holds p = true ↔ t.Carried p := by
  simp only [holds, TagSet.contains, List.any_eq_true, Bool.and_eq_true, beq_iff_eq, Carried]

instance (t : TagTerm) (p : Photo) : Decidable (t.Carried p) :=
  decidable_of_iff _ (t.holds_iff_carried p)

theorem TagTerm.Carried.mem {t : TagTerm} {p : Photo} (h : t.Carried p) :
    (⟨t.key, t.value⟩ : Tag) ∈ p.tags.tags := by
  obtain ⟨tag, member, key, value⟩ := h
  rw [← key, ← value]
  exact member

namespace TagFormula

variable {f : TagFormula} {mode : DateMode} {photos found : List Photo}

/-- Searching for the text of the formula succeeds and returns these photos. -/
def Returns (f : TagFormula) (mode : DateMode) (photos found : List Photo) : Prop :=
  search mode (.str f.text) photos = .ok ⟨f.text, some f.kind, found, none⟩

theorem IsPlain.returns (plain : f.IsPlain) (h : photos.filter f.holds = found) :
    f.Returns mode photos found := by
  rw [← h]
  exact plain.search_text mode photos

variable (p q : TagTerm)

theorem filter_holds_among (photos : List Photo) :
    (photos.filter p.holds).filter q.holds = photos.filter (combined p q .and).holds := by
  rw [List.filter_filter]
  exact List.filter_congr fun x _ => Bool.and_comm (q.holds x) (p.holds x)

theorem holds_and_comm : (combined q p .and).holds = (combined p q .and).holds := by
  funext x
  exact Bool.and_comm (q.holds x) (p.holds x)

theorem holds_or_comm : (combined q p .or).holds = (combined p q .or).holds := by
  funext x
  exact Bool.or_comm (q.holds x) (p.holds x)

theorem holds_self (op : Connective) : (combined p p op).holds = p.holds := by
  funext x
  cases op with
  | and => exact Bool.and_self (p.holds x)
  | or => exact Bool.or_self (p.holds x)

theorem filter_holds_or (photos : List Photo) : photos.filter (combined p q .or).holds =
    photos.filter fun x => decide (x ∈ photos.filter p.holds ∨ x ∈ photos.filter q.holds) := by
  apply List.filter_congr
  intro x hx
  have either : (combined p q .or).holds x = true ↔ p.holds x = true ∨ q.holds x = true :=
    Bool.or_eq_true_iff
  rw [Bool.eq_iff_iff, decide_eq_true_eq, either, List.mem_filter, List.mem_filter,
    and_iff_right hx, and_iff_right hx]

theorem filter_holds_eq_carried (photos : List Photo) :
    photos.filter p.holds = photos.filter fun x => decide (p.Carried x) := by
  apply List.filter_congr
  intro x _
  rw [Bool.eq_iff_iff, decide_eq_true_eq, p.holds_iff_carried]

/-- For the meet there may be a tag for each of the terms. -/
theorem filter_holds_and_eq_carried (photos : List Photo) :
    photos.filter (combined p q .and).holds =
      photos.filter fun x => decide (p.Carried x ∧ q.Carried x) := by
  apply List.filter_congr
  intro x _
  have both : (combined p q .and).holds x = true ↔ p.holds x = true ∧ q.holds x = true :=
    Bool.and_eq_true_iff
  rw [Bool.eq_iff_iff, decide_eq_true_eq, both, p.holds_iff_carried, q.holds_iff_carried]

/-- What the searches for two terms and for their combinations return. The photos for both are those
that either of the two finds among the other's, the photos for one of them those that either finds; order
and repetition of terms do not matter. A term asks for one tag, and two terms for a tag each. -/
structure SetLaws (mode : DateMode) (photos ofP ofQ both either : List Photo) : Prop where
  left : (single p).Returns mode photos ofP
  right : (single q).Returns mode photos ofQ
  and : (combined p q .and).Returns mode photos both
  or : (combined p q .or).Returns mode photos either
  right_among_left : (single q).Returns mode ofP both
  left_among_right : (single p).Returns mode ofQ both
  either_eq : either = photos.filter fun x => decide (x ∈ ofP ∨ x ∈ ofQ)
  and_comm : (combined q p .and).Returns mode photos both
  or_comm : (combined q p .or).Returns mode photos either
  self : ∀ op, (combined p p op).Returns mode photos ofP
  lengths : both.length + either.length = ofP.length + ofQ.length
  left_eq : ofP = photos.filter fun x => decide (p.Carried x)
  right_eq : ofQ = photos.filter fun x => decide (q.Carried x)
  both_eq : both = photos.filter fun x => decide (p.Carried x ∧ q.Carried x)
  two_tags : p ≠ q → ∀ x ∈ both, ∃ t ∈ x.tags.tags, ∃ u ∈ x.tags.tags,
    t ≠ u ∧ t = ⟨p.key, p.value⟩ ∧ u = ⟨q.key, q.value⟩

end TagFormula

open TagFormula in
/-- Searching for terms over words, alone and joined by connectives, obeys the laws of sets. -/
theorem search_obeys_set_laws {p q : TagTerm} (hp : p.IsPlain) (hq : q.IsPlain) (mode : DateMode)
    (photos : List Photo) : ∃ ofP ofQ both either, SetLaws p q mode photos ofP ofQ both either := by
  have plain : ∀ {a b : TagTerm}, a.IsPlain → b.IsPlain → ∀ op, (combined a b op).IsPlain :=
    fun ha hb _ => isPlain_combined.2 ⟨ha, hb⟩
  have plainP : (single p).IsPlain := isPlain_single.2 hp
  have plainQ : (single q).IsPlain := isPlain_single.2 hq
  refine ⟨photos.filter p.holds, photos.filter q.holds, photos.filter (combined p q .and).holds,
    photos.filter (combined p q .or).holds,
    { left := plainP.returns rfl
      right := plainQ.returns rfl
      and := (plain hp hq .and).returns rfl
      or := (plain hp hq .or).returns rfl
      right_among_left := plainQ.returns (filter_holds_among p q photos)
      left_among_right := plainP.returns ?_
      either_eq := filter_holds_or p q photos
      and_comm := (plain hq hp .and).returns ?_
      or_comm := (plain hq hp .or).returns ?_
      self := fun op => (plain hp hp op).returns ?_
      lengths := length_filter_and_add_length_filter_or p.holds q.holds photos
      left_eq := filter_holds_eq_carried p photos
      right_eq := filter_holds_eq_carried q photos
      both_eq := filter_holds_and_eq_carried p q photos
      two_tags := ?_ }⟩
  · rw [← holds_and_comm]
    exact filter_holds_among q p photos
  · rw [holds_and_comm]
  · rw [holds_or_comm]
  · rw [holds_self]
  · intro different x hx
    rw [filter_holds_and_eq_carried, List.mem_filter, decide_eq_true_eq] at hx
    obtain ⟨-, carriedP, carriedQ⟩ := hx
    refine ⟨_, carriedP.mem, _, carriedQ.mem, fun same => different ?_, rfl, rfl⟩
    cases p; cases q
    cases same
    rfl

/-- Of a photo with two tags of one key and a photo with one of the two, only the former is returned for
both tags, as often as it is there. -/
theorem search_obeys_set_laws_onePerson :
    let two : Photo := ⟨.given "two", ⟨Date.epoch, .midnight, none⟩,
      ⟨[⟨"person", "Ann"⟩, ⟨"person", "Bob"⟩]⟩, none, none⟩
    let one : Photo := ⟨.given "one", ⟨Date.epoch, .midnight, none⟩, ⟨[⟨"person", "Ann"⟩]⟩, none, none⟩
    TagTerm.IsPlain ⟨"person", "Ann"⟩ ∧ TagTerm.IsPlain ⟨"person", "Bob"⟩ ∧
      ∃ ofP ofQ either, TagFormula.SetLaws ⟨"person", "Ann"⟩ ⟨"person", "Bob"⟩ .lenient
        [two, one, two] ofP ofQ [two, two] either := by
  intro two one
  have ann : TagTerm.IsPlain ⟨"person", "Ann"⟩ := by constructor <;> simp [IsWord, isWordChar]
  have bob : TagTerm.IsPlain ⟨"person", "Bob"⟩ := by constructor <;> simp [IsWord, isWordChar]
  obtain ⟨ofP, ofQ, both, either, laws⟩ := search_obeys_set_laws ann bob .lenient [two, one, two]
  have found : both = [two, two] := laws.both_eq.trans (by decide)
  exact ⟨ann, bob, ofP, ofQ, either, found ▸ laws⟩

end PhotoSearch
