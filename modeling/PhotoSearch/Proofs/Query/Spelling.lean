import PhotoSearch.Query.Reading
import PhotoSearch.Proofs.Calendar.TypedDay
import PhotoSearch.Proofs.Text.FixedWidth

/-!
How queries are spelled. Each query has its spellings said without reading them, and reading accepts
exactly those: a text spells at most one query, and a text that spells none is malformed.
-/

namespace PhotoSearch

section FirstOccurrence

variable {c : Char} {before after : List Char}

theorem ne_of_mem_of_notMem (h : c ∉ before) : ∀ x ∈ before, decide (x ≠ c) = true := by
  intro x hx
  exact decide_eq_true fun same => h (same ▸ hx)

theorem takeWhile_ne_append (h : c ∉ before) :
    (before ++ c :: after).takeWhile (· ≠ c) = before := by
  rw [List.takeWhile_append_of_pos (ne_of_mem_of_notMem h), List.takeWhile_cons_of_neg (by simp),
    List.append_nil]

theorem dropWhile_ne_append (h : c ∉ before) :
    (before ++ c :: after).dropWhile (· ≠ c) = c :: after := by
  rw [List.dropWhile_append_of_pos (ne_of_mem_of_notMem h), List.dropWhile_cons_of_neg (by simp)]

theorem notMem_takeWhile_ne (cs : List Char) : c ∉ cs.takeWhile (· ≠ c) := by
  intro h
  simpa using List.mem_takeWhile_imp h

/-- What stays after dropping up to a character begins with it. -/
theorem eq_of_dropWhile_ne {cs : List Char} {x : Char} (h : cs.dropWhile (· ≠ c) = x :: after) :
    cs = cs.takeWhile (· ≠ c) ++ c :: after := by
  have first : x = c := by
    have left : cs.dropWhile (fun y => decide (y ≠ c)) ≠ [] := by rw [h]; simp
    have stops := List.head_dropWhile_not (fun y => decide (y ≠ c)) left
    simp only [h, List.head_cons] at stops
    simpa using stops
  have whole : cs.takeWhile (· ≠ c) ++ cs.dropWhile (· ≠ c) = cs := List.takeWhile_append_dropWhile
  rw [h, first] at whole
  exact whole.symm

theorem notMem_of_dropWhile_ne {cs : List Char} (h : cs.dropWhile (· ≠ c) = []) : c ∉ cs := by
  have whole : cs.takeWhile (· ≠ c) ++ cs.dropWhile (· ≠ c) = cs := List.takeWhile_append_dropWhile
  rw [h, List.append_nil] at whole
  exact whole ▸ notMem_takeWhile_ne cs

end FirstOccurrence

/-! ### Words and terms -/

theorem IsWord.notMem {cs : List Char} {c : Char} (h : IsWord cs) (hc : isWordChar c = false) :
    c ∉ cs := by
  intro member
  have word := h.2 c member
  rw [hc] at word
  cases word

namespace TagTerm

/-- Key and value with an equals sign between. -/
def text (t : TagTerm) : String := t.key ++ "=" ++ t.value

/-- Key and value are words. -/
structure IsPlain (t : TagTerm) : Prop where
  key : IsWord t.key.toList
  value : IsWord t.value.toList

theorem toList_text (t : TagTerm) : t.text.toList = t.key.toList ++ '=' :: t.value.toList := by
  simp [text]

theorem equals_mem_text (t : TagTerm) : '=' ∈ t.text.toList := by simp [toList_text]

theorem space_notMem_text {t : TagTerm} (hk : ' ' ∉ t.key.toList) (hv : ' ' ∉ t.value.toList) :
    ' ' ∉ t.text.toList := by
  rw [toList_text, List.mem_append, List.mem_cons]
  rintro (member | same | member)
  · exact hk member
  · exact absurd same (by decide)
  · exact hv member

theorem IsPlain.space_notMem {t : TagTerm} (h : t.IsPlain) : ' ' ∉ t.text.toList :=
  space_notMem_text (h.key.notMem (by decide)) (h.value.notMem (by decide))

theorem ofChars?_text {t : TagTerm} (h : t.IsPlain) : ofChars? t.text.toList = some t := by
  have none_in_key : '=' ∉ t.key.toList := h.key.notMem (by decide)
  rw [toList_text]
  simp only [ofChars?, takeWhile_ne_append none_in_key, dropWhile_ne_append none_in_key,
    if_pos (And.intro h.key h.value), String.ofList_toList]

theorem ofChars?_eq_some_iff {cs : List Char} {t : TagTerm} :
    ofChars? cs = some t ↔ t.IsPlain ∧ cs = t.text.toList := by
  constructor
  · intro h
    simp only [ofChars?] at h
    split at h
    · rename_i x value rest
      split at h
      · rename_i words
        cases h
        refine ⟨⟨by simpa using words.1, by simpa using words.2⟩, ?_⟩
        rw [toList_text, String.toList_ofList, String.toList_ofList]
        exact eq_of_dropWhile_ne rest
      · cases h
    · cases h
  · rintro ⟨plain, rfl⟩
    exact ofChars?_text plain

end TagTerm

/-! ### Formulas -/

theorem Connective.ofChars?_eq_some_iff {cs : List Char} {op : Connective} :
    ofChars? cs = some op ↔ cs = op.word.toList := by
  have differ : Connective.and.word.toList ≠ Connective.or.word.toList := by decide
  simp only [ofChars?]
  split
  · rename_i same
    cases op <;> simp [same, differ]
  · rename_i other
    split
    · rename_i same
      cases op <;> simp [same, differ.symm]
    · rename_i other'
      cases op <;> simp [other, other']

theorem Connective.space_notMem_word (op : Connective) : ' ' ∉ op.word.toList := by
  cases op <;> decide

theorem splitSpace_append {left rest : List Char} (h : ' ' ∉ left) :
    splitSpace (left ++ ' ' :: rest) = some (left, rest) := by
  simp only [splitSpace, takeWhile_ne_append h, dropWhile_ne_append h]

theorem splitSpace_eq_some_iff {cs left rest : List Char} :
    splitSpace cs = some (left, rest) ↔ ' ' ∉ left ∧ cs = left ++ ' ' :: rest := by
  constructor
  · intro h
    simp only [splitSpace] at h
    split at h
    · rename_i found
      cases h
      exact ⟨notMem_takeWhile_ne cs, eq_of_dropWhile_ne found⟩
    · cases h
  · rintro ⟨free, rfl⟩
    exact splitSpace_append free

theorem splitSpace_eq_none_iff {cs : List Char} : splitSpace cs = none ↔ ' ' ∉ cs := by
  constructor
  · intro h
    simp only [splitSpace] at h
    split at h
    · cases h
    · rename_i ended
      exact notMem_of_dropWhile_ne ended
  · intro free
    cases h : splitSpace cs with
    | none => rfl
    | some parts =>
      obtain ⟨_, rfl⟩ := splitSpace_eq_some_iff.1 h
      simp at free

namespace TagFormula

/-- The term, or the two terms around the connective's word, each set off by one space. -/
def text : TagFormula → String
  | single t => t.text
  | combined left right op => left.text ++ " " ++ op.word ++ " " ++ right.text

def IsPlain (f : TagFormula) : Prop := ∀ t ∈ f.terms, t.IsPlain

theorem isPlain_single {t : TagTerm} : (single t).IsPlain ↔ t.IsPlain := by
  simp [IsPlain, terms]

theorem isPlain_combined {left right : TagTerm} {op : Connective} :
    (combined left right op).IsPlain ↔ left.IsPlain ∧ right.IsPlain := by
  simp [IsPlain, terms]

theorem toList_text_combined (left right : TagTerm) (op : Connective) :
    (combined left right op).text.toList =
      left.text.toList ++ ' ' :: (op.word.toList ++ ' ' :: right.text.toList) := by
  simp [text]

theorem equals_mem_text (f : TagFormula) : '=' ∈ f.text.toList := by
  cases f with
  | single t => exact t.equals_mem_text
  | combined left right op =>
    rw [toList_text_combined]
    exact List.mem_append_left _ left.equals_mem_text

theorem ofChars?_text {f : TagFormula} (h : f.IsPlain) : ofChars? f.text.toList = some f := by
  cases f with
  | single t =>
    have plain := isPlain_single.1 h
    simp only [text, ofChars?, splitSpace_eq_none_iff.2 plain.space_notMem,
      TagTerm.ofChars?_text plain, Option.map_some]
  | combined left right op =>
    obtain ⟨hl, hr⟩ := isPlain_combined.1 h
    rw [toList_text_combined]
    simp only [ofChars?, splitSpace_append hl.space_notMem, splitSpace_append op.space_notMem_word]
    simp [TagTerm.ofChars?_text hl, TagTerm.ofChars?_text hr, Connective.ofChars?_eq_some_iff.2 rfl]

theorem ofChars?_eq_some_iff {cs : List Char} {f : TagFormula} :
    ofChars? cs = some f ↔ f.IsPlain ∧ cs = f.text.toList := by
  constructor
  · intro h
    simp only [ofChars?] at h
    split at h
    · -- no space: one term
      obtain ⟨t, ht, rfl⟩ := Option.map_eq_some_iff.1 h
      obtain ⟨plain, rfl⟩ := TagTerm.ofChars?_eq_some_iff.1 ht
      exact ⟨isPlain_single.2 plain, rfl⟩
    · rename_i first rest found
      simp only [Option.bind_eq_bind, Option.bind_eq_some_iff, Option.pure_def,
        Option.some.injEq] at h
      obtain ⟨⟨op, last⟩, found', left, hl, right, hr, connective, hc, rfl⟩ := h
      obtain ⟨-, rfl⟩ := splitSpace_eq_some_iff.1 found
      obtain ⟨-, rfl⟩ := splitSpace_eq_some_iff.1 found'
      obtain ⟨plainLeft, rfl⟩ := TagTerm.ofChars?_eq_some_iff.1 hl
      obtain ⟨plainRight, rfl⟩ := TagTerm.ofChars?_eq_some_iff.1 hr
      obtain rfl := Connective.ofChars?_eq_some_iff.1 hc
      exact ⟨isPlain_combined.2 ⟨plainLeft, plainRight⟩, (toList_text_combined ..).symm⟩
  · rintro ⟨plain, rfl⟩
    exact ofChars?_text plain

end TagFormula

/-! ### Days and ranges -/

namespace TypedDay

/-- A typed day and its two, two and four digits, with slashes between. -/
inductive Spells : TypedDay → List Char → Prop where
  | digits {month day year : List Char} (hm : Text.IsDigits 2 month) (hd : Text.IsDigits 2 day)
      (hy : Text.IsDigits 4 year) :
      Spells ⟨Text.digitsValue month, Text.digitsValue day, Text.digitsValue year⟩
        (month ++ '/' :: day ++ '/' :: year)

theorem ofChars?_eq_some_iff {cs : List Char} {d : TypedDay} :
    ofChars? cs = some d ↔ d.Spells cs := by
  constructor
  · intro h
    unfold ofChars? at h
    split at h
    · rename_i m₁ m₂ s₁ d₁ d₂ s₂ y₁ y₂ y₃ y₄
      split at h
      · rename_i shape
        obtain ⟨rfl, rfl, digits⟩ := shape
        cases h
        simp only [List.all_cons, List.all_nil, Bool.and_eq_true, Bool.and_true] at digits
        obtain ⟨hm₁, hm₂, hd₁, hd₂, hy₁, hy₂, hy₃, hy₄⟩ := digits
        exact @Spells.digits [m₁, m₂] [d₁, d₂] [y₁, y₂, y₃, y₄]
          ⟨rfl, by simp [hm₁, hm₂]⟩ ⟨rfl, by simp [hd₁, hd₂]⟩ ⟨rfl, by simp [hy₁, hy₂, hy₃, hy₄]⟩
      · cases h
    · cases h
  · rintro ⟨⟨hm, month⟩, ⟨hd, day⟩, hy, year⟩
    obtain ⟨m₁, m₂, rfl⟩ := List.length_eq_two.1 hm
    obtain ⟨d₁, d₂, rfl⟩ := List.length_eq_two.1 hd
    obtain ⟨y₁, y₂, y₃, y₄, rfl⟩ := List.length_eq_four.1 hy
    simp only [List.mem_cons, List.not_mem_nil, or_false, forall_eq_or_imp, forall_eq]
      at month day year
    simp [ofChars?, month, day, year]

theorem Spells.length {d : TypedDay} {cs : List Char} (h : d.Spells cs) : cs.length = 10 :=
  length_of_ofChars? (ofChars?_eq_some_iff.2 h)

theorem Spells.isShort {d : TypedDay} {cs : List Char} (h : d.Spells cs) : d.IsShort := by
  obtain ⟨hm, hd, hy⟩ := h
  have month := hm.digitsValue_lt
  have day := hd.digitsValue_lt
  have year := hy.digitsValue_lt
  simp only [IsShort]
  omega

/-- A short day is spelled by its own text. -/
theorem IsShort.spells {d : TypedDay} (h : d.IsShort) : d.Spells d.textChars := by
  obtain ⟨⟨hm, hm'⟩, ⟨hd, hd'⟩, hy, hy'⟩ := h
  obtain ⟨month, em⟩ := Int.eq_ofNat_of_zero_le hm
  obtain ⟨day, ed⟩ := Int.eq_ofNat_of_zero_le hd
  obtain ⟨year, ey⟩ := Int.eq_ofNat_of_zero_le hy
  have digits := Spells.digits
    (Text.isDigits_padded (show 0 < 2 by decide) (show month < 10 ^ 2 by omega))
    (Text.isDigits_padded (show 0 < 2 by decide) (show day < 10 ^ 2 by omega))
    (Text.isDigits_padded (show 0 < 4 by decide) (show year < 10 ^ 4 by omega))
  simp only [Text.digitsValue_padded] at digits
  rw [← em, ← ed, ← ey] at digits
  exact digits

theorem Spells.equals_notMem {d : TypedDay} {cs : List Char} (h : d.Spells cs) : '=' ∉ cs := by
  obtain ⟨hm, hd, hy⟩ := h
  have no_digit : '='.isDigit ≠ true := by decide
  simp only [List.mem_append, List.mem_cons]
  rintro ((member | same | member) | same | member)
  · exact no_digit (hm.2 _ member)
  · exact absurd same (by decide)
  · exact no_digit (hd.2 _ member)
  · exact absurd same (by decide)
  · exact no_digit (hy.2 _ member)

end TypedDay

namespace DayRange

/-- The text that a range carries is a typed day, a hyphen and another typed day: its two days. -/
def Spells (r : DayRange) (s : String) : Prop :=
  r.text = s ∧ ∃ first last, s.toList = first ++ '-' :: last ∧ r.start.Spells first ∧
    r.finish.Spells last

theorem ofText?_eq_some_iff {s : String} {r : DayRange} : ofText? s = some r ↔ r.Spells s := by
  constructor
  · intro h
    simp only [ofText?] at h
    split at h
    · rename_i last found
      simp only [Option.bind_eq_bind, Option.bind_eq_some_iff, Option.pure_def,
        Option.some.injEq] at h
      obtain ⟨start, hs, finish, hf, rfl⟩ := h
      refine ⟨rfl, s.toList.take 10, last, ?_, TypedDay.ofChars?_eq_some_iff.1 hs,
        TypedDay.ofChars?_eq_some_iff.1 hf⟩
      rw [← found, List.take_append_drop]
    · cases h
  · rintro ⟨rfl, first, last, shape, hs, hf⟩
    have ten : first.length = 10 := hs.length
    have before : r.text.toList.take 10 = first := by rw [shape, List.take_left' ten]
    have behind : r.text.toList.drop 10 = '-' :: last := by rw [shape, List.drop_left' ten]
    simp [ofText?, before, behind, TypedDay.ofChars?_eq_some_iff.2 hs,
      TypedDay.ofChars?_eq_some_iff.2 hf]

/-- The text of one typed day and that of another, with a hyphen between. -/
def typedText (start finish : TypedDay) : String := start.text ++ "-" ++ finish.text

theorem spells_typedText {start finish : TypedDay} (hs : start.IsShort) (hf : finish.IsShort) :
    Spells ⟨typedText start finish, start, finish⟩ (typedText start finish) := by
  refine ⟨rfl, start.textChars, finish.textChars, ?_, hs.spells, hf.spells⟩
  simp [typedText, TypedDay.text]

theorem Spells.equals_notMem {r : DayRange} {s : String} (h : r.Spells s) : '=' ∉ s.toList := by
  obtain ⟨-, first, last, shape, hs, hf⟩ := h
  rw [shape, List.mem_append, List.mem_cons]
  rintro (member | same | member)
  · exact hs.equals_notMem member
  · exact absurd same (by decide)
  · exact hf.equals_notMem member

end DayRange

/-! ### Queries -/

namespace Query

/-- The texts that spell a query. -/
def Spells : Query → String → Prop
  | dates r, s => r.Spells s
  | tags f, s => f.IsPlain ∧ s = f.text

theorem ofText?_eq_some_iff {s : String} {q : Query} : ofText? s = some q ↔ q.Spells s := by
  have formula : ∀ f, TagFormula.ofChars? s.toList = some f ↔ f.IsPlain ∧ s = f.text := by
    intro f
    rw [TagFormula.ofChars?_eq_some_iff, String.toList_inj]
  cases q with
  | dates r =>
    rw [Spells, ← DayRange.ofText?_eq_some_iff, ofText?]
    cases DayRange.ofText? s <;> simp
  | tags f =>
    rw [Spells, ← formula, ofText?]
    cases h : DayRange.ofText? s with
    | none => simp
    | some r =>
      -- no text spells a range and a formula
      have free := (DayRange.ofText?_eq_some_iff.1 h).equals_notMem
      simp only [Option.map_some, Option.some_or, Option.some.injEq, reduceCtorEq, false_iff]
      intro other
      rw [((formula f).1 other).2] at free
      exact free f.equals_mem_text

theorem not_spells_empty (q : Query) : ¬ q.Spells "" := by
  rw [← ofText?_eq_some_iff]
  have none : ofText? "" = none := by decide
  simp [none]

theorem read_str_eq_ok_iff {s : String} {q : Query} : read (.str s) = .ok q ↔ q.Spells s := by
  rw [← ofText?_eq_some_iff]
  simp only [read]
  split
  · rename_i empty
    simp [empty, ofText?_eq_some_iff, not_spells_empty]
  · cases ofText? s <;> simp

theorem read_eq_ok_iff {raw : Data} {q : Query} :
    read raw = .ok q ↔ ∃ s, raw = .str s ∧ q.Spells s := by
  cases raw with
  | str s => simp only [read_str_eq_ok_iff, Data.str.injEq, exists_eq_left']
  | _ => simp [read]

theorem errorClass_of_read {raw : Data} {e : QueryError} (h : read raw = .error e) :
    e.errorClass = .malformed := by
  simp only [read] at h
  split at h
  · split at h
    · cases h; rfl
    · split at h
      · cases h
      · cases h; rfl
  · cases h; rfl

/-- Reading accepts exactly the spellings, no text spells two queries, and what is no spelling, a
text or not, is malformed. -/
theorem read_accepts_exactly_spellings (raw : Data) :
    (∀ q : Query, read raw = .ok q ↔ ∃ s, raw = .str s ∧ q.Spells s) ∧
      (∀ s q q', Spells q s → Spells q' s → q = q') ∧
      ((∃ e, read raw = .error e ∧ e.errorClass = .malformed) ↔
        ¬ ∃ (q : Query) (s : String), raw = .str s ∧ q.Spells s) := by
  refine ⟨fun q => read_eq_ok_iff, ?_, ?_⟩
  · intro s q q' h h'
    rw [← ofText?_eq_some_iff] at h h'
    exact Option.some.inj (h.symm.trans h')
  · simp only [← read_eq_ok_iff]
    cases h : read raw with
    | error e => simp [errorClass_of_read h]
    | ok q => simp

end Query

end PhotoSearch
