import PhotoSearch.Proofs.Record.Validity
import PhotoSearch.Proofs.Search.Finding

/-!
Searching for tags by their text. The key and the value of a tag may hold any characters but blanks,
those of the query syntax included, and still the text that is put together from tags is read as a
query for just these tags or is malformed.
-/

namespace PhotoSearch

/-! ### No other formula has the same text -/

theorem TagTerm.eq_of_text_eq {t u : TagTerm} (hu : u.IsPlain) (h : t.text = u.text) : t = u := by
  have key : '=' ∉ u.key.toList := hu.key.notMem (by decide)
  have value : '=' ∉ u.value.toList := hu.value.notMem (by decide)
  have same : t.key.toList ++ '=' :: t.value.toList = u.key.toList ++ '=' :: u.value.toList := by
    rw [← toList_text, ← toList_text, h]
  -- the words on the right hold no equals sign, so the signs stand at the same place
  have parts := (List.append_cons_inj_of_notMem key value).1 same.symm
  rw [String.toList_inj, String.toList_inj] at parts
  cases t; cases u
  simp only [mk.injEq]
  exact ⟨parts.1.symm, parts.2.2.symm⟩

theorem Connective.eq_of_word_eq {op op' : Connective} (h : op.word = op'.word) : op = op' := by
  have read : ofChars? op.word.toList = some op := ofChars?_eq_some_iff.2 rfl
  have read' : ofChars? op.word.toList = some op' := ofChars?_eq_some_iff.2 (by rw [h])
  exact Option.some.inj (read.symm.trans read')

namespace TagFormula

/-- Where the left terms hold no spaces, the first two spaces are those around the connective. -/
theorem parts_eq_of_text_eq {left right left' right' : TagTerm} {op op' : Connective}
    (hl : ' ' ∉ left.text.toList) (hl' : ' ' ∉ left'.text.toList)
    (h : (combined left right op).text = (combined left' right' op').text) :
    left.text = left'.text ∧ op = op' ∧ right.text = right'.text := by
  have first := congrArg (fun s => splitSpace s.toList) h
  simp only [toList_text_combined, splitSpace_append hl, splitSpace_append hl', Option.some.injEq,
    Prod.mk.injEq] at first
  have second := congrArg splitSpace first.2
  simp only [splitSpace_append op.space_notMem_word, splitSpace_append op'.space_notMem_word,
    Option.some.injEq, Prod.mk.injEq, String.toList_inj] at second
  exact ⟨String.toList_inj.1 first.1, Connective.eq_of_word_eq second.1, second.2⟩

theorem eq_of_text_eq {f g : TagFormula} (hf : ∀ t ∈ f.terms, ' ' ∉ t.text.toList) (hg : g.IsPlain)
    (h : f.text = g.text) : f = g := by
  cases f with
  | single t =>
    have free : ' ' ∉ t.text.toList := hf t (by simp [terms])
    cases g with
    | single u => rw [TagTerm.eq_of_text_eq (isPlain_single.1 hg) h]
    | combined left right op =>
      have same : t.text = (combined left right op).text := h
      rw [same, toList_text_combined] at free
      simp at free
  | combined left right op =>
    have freeLeft : ' ' ∉ left.text.toList := hf left (by simp [terms])
    cases g with
    | single u =>
      have free := (isPlain_single.1 hg).space_notMem
      have same : (combined left right op).text = u.text := h
      rw [← same, toList_text_combined] at free
      simp at free
    | combined left' right' op' =>
      obtain ⟨plainLeft, plainRight⟩ := isPlain_combined.1 hg
      obtain ⟨textLeft, sameOp, textRight⟩ :=
        parts_eq_of_text_eq freeLeft plainLeft.space_notMem h
      have sameLeft := TagTerm.eq_of_text_eq plainLeft textLeft
      have sameRight := TagTerm.eq_of_text_eq plainRight textRight
      rw [sameLeft, sameRight, sameOp]

/-- With a space in a key, one text belongs to two formulas. -/
example : (single ⟨"a=b AND c", "d"⟩).text = (combined ⟨"a", "b"⟩ ⟨"c", "d"⟩ .and).text := by decide

/-- The text of terms without spaces is read as nothing but the formula that it was made from, and
only if this consists of words. -/
theorem read_text_eq_ok_iff {f : TagFormula} (hf : ∀ t ∈ f.terms, ' ' ∉ t.text.toList) {q : Query} :
    Query.read (.str f.text) = .ok q ↔ q = .tags f ∧ f.IsPlain := by
  rw [Query.read_str_eq_ok_iff]
  constructor
  · intro spelled
    cases q with
    | dates r => exact absurd f.equals_mem_text (DayRange.Spells.equals_notMem spelled)
    | tags g =>
      have plain : g.IsPlain := spelled.1
      have same := eq_of_text_eq hf plain spelled.2
      exact ⟨by rw [same], same ▸ plain⟩
  · rintro ⟨rfl, plain⟩
    exact ⟨plain, rfl⟩

theorem text_ne_empty (f : TagFormula) : f.text ≠ "" := by
  intro empty
  have member := f.equals_mem_text
  rw [empty] at member
  simp at member

theorem read_text_of_not_isPlain {f : TagFormula} (hf : ∀ t ∈ f.terms, ' ' ∉ t.text.toList)
    (h : ¬ f.IsPlain) : Query.read (.str f.text) = .error (.unrecognized f.text) := by
  have none : Query.ofText? f.text = none := by
    cases read : Query.ofText? f.text with
    | none => rfl
    | some q =>
      have spelled := Query.read_str_eq_ok_iff.2 (Query.ofText?_eq_some_iff.1 read)
      exact absurd ((read_text_eq_ok_iff hf).1 spelled).2 h
  simp only [Query.read, if_neg f.text_ne_empty, none]

/-! ### Searching for the text -/

instance (f : TagFormula) (p : Photo) : Decidable (f.Meets p) :=
  decidable_of_iff _ (f.holds_iff_meets p)

theorem IsPlain.search_text {f : TagFormula} (plain : f.IsPlain) (mode : DateMode)
    (photos : List Photo) : search mode (.str f.text) photos =
      .ok ⟨f.text, some f.kind, photos.filter f.holds, none⟩ := by
  have read : Query.read (.str f.text) = .ok (.tags f) := Query.read_str_eq_ok_iff.2 ⟨plain, rfl⟩
  have evaluated : (Query.tags f).evaluate mode photos = .ok (photos.filter f.holds) := by
    rw [Query.tags_evaluate, evaluate_of_fault?_eq_none plain.fault?]
  rw [search, read]
  exact searchRead_of_evaluate evaluated f.text

/-- The text of the formula is read as this formula, exactly if it consists of words, or as nothing.
In the first case a search finds the photos that meet it, in the second the text is malformed. -/
structure NotMisread (f : TagFormula) (mode : DateMode) (photos : List Photo) : Prop where
  read_iff : Query.read (.str f.text) = .ok (.tags f) ↔ f.IsPlain
  read_only : ∀ q, Query.read (.str f.text) = .ok q → q = .tags f
  found : f.IsPlain → search mode (.str f.text) photos =
    .ok ⟨f.text, some f.kind, photos.filter fun p => decide (f.Meets p), none⟩
  malformed : ¬ f.IsPlain → search mode (.str f.text) photos =
    .ok ⟨f.text, none, [], some ⟨"malformed_query", (QueryError.unrecognized f.text).message⟩⟩

theorem notMisread {f : TagFormula} (hf : ∀ t ∈ f.terms, ' ' ∉ t.text.toList) (mode : DateMode)
    (photos : List Photo) : f.NotMisread mode photos where
  read_iff := by simp [read_text_eq_ok_iff hf]
  read_only q read := ((read_text_eq_ok_iff hf).1 read).1
  found plain := by
    have meets : (fun p => decide (f.Meets p)) = f.holds := by
      funext p
      rw [Bool.eq_iff_iff, decide_eq_true_eq, f.holds_iff_meets]
    rw [meets]
    exact plain.search_text mode photos
  malformed notPlain := by
    rw [search, read_text_of_not_isPlain hf notPlain]
    rfl

end TagFormula

/-! ### Tags -/

/-- What is asked for if a photo is to carry the tag. -/
def Tag.term (t : Tag) : TagTerm := ⟨t.key, t.value⟩

theorem IsToken.space_notMem {s : String} (h : IsToken s) : ' ' ∉ s.toList := by
  intro member
  have blank : Text.isBlank ' ' = true := by decide
  rw [h.2 ' ' member] at blank
  cases blank

theorem Tag.Valid.space_notMem_text {t : Tag} (h : t.Valid) : ' ' ∉ t.term.text.toList :=
  TagTerm.space_notMem_text h.1.space_notMem h.2.space_notMem

/-- Searching for the text of a tag, or of two tags around a connective: it is read as what it was
made from if all keys and values are words, and then finds the photos that carry the tag, both tags
or one of the two; otherwise it is malformed. It is never read as a range of days or as a query for
other tags. -/
theorem search_text_of_tags {a b : Tag} (ha : a.Valid) (hb : b.Valid) (op : Connective)
    (mode : DateMode) (photos : List Photo) :
    (TagFormula.single a.term).NotMisread mode photos ∧
      (TagFormula.combined a.term b.term op).NotMisread mode photos := by
  constructor
  · apply TagFormula.notMisread
    intro t ht
    rw [List.mem_singleton.1 ht]
    exact ha.space_notMem_text
  · apply TagFormula.notMisread
    intro t ht
    rcases List.mem_pair.1 ht with rfl | rfl
    · exact ha.space_notMem_text
    · exact hb.space_notMem_text

/-- Two tags, the second with an equals sign in its key and a day as its value. -/
theorem search_text_of_tags_punctuated :
    Tag.Valid ⟨"person", "Ann"⟩ ∧ Tag.Valid ⟨"k=v", "02/29/2024"⟩ ∧
      (TagFormula.single ⟨"person", "Ann"⟩).NotMisread .strict [] ∧
      (TagFormula.combined ⟨"person", "Ann"⟩ ⟨"k=v", "02/29/2024"⟩ .or).NotMisread .strict [] :=
  have words : Tag.Valid ⟨"person", "Ann"⟩ := by decide
  have marks : Tag.Valid ⟨"k=v", "02/29/2024"⟩ := by decide
  ⟨words, marks, search_text_of_tags words marks .or .strict []⟩

end PhotoSearch
