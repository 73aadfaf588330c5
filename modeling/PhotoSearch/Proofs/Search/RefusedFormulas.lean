import PhotoSearch.Proofs.Search.Finding

/-!
Formulas that are refused. A formula is refused exactly when one of its keys and values is empty or
holds a blank, the error is about the first such part from left to right, and the photos play no role.
A formula that is not refused finds the photos that it holds of.
-/

namespace PhotoSearch

/-! ### Faulty parts -/

/-- Empty, or with a blank somewhere in it. -/
def IsFaulty (s : String) : Prop := s = "" ∨ ∃ c ∈ s.toList, Text.isBlank c = true

theorem not_isFaulty_iff {s : String} : ¬ IsFaulty s ↔ IsToken s := by
  simp [IsFaulty, IsToken]

/-- The error of a faulty part: that it is empty, or else that there is a blank in it. -/
def partError (part : TagPart) (text : String) : QueryError :=
  if text = "" then .emptyPart part else .blankInPart part text

theorem partFault?_of_isFaulty {text : String} (h : IsFaulty text) (part : TagPart) :
    partFault? part text = some (partError part text) := by
  rcases h with rfl | ⟨c, member, blank⟩
  · rfl
  · have some_char : text ≠ "" := by
      rintro rfl
      simp at member
    have blanks : text.toList.any Text.isBlank = true := List.any_eq_true.2 ⟨c, member, blank⟩
    simp only [partFault?, tokenFault?, partError, if_neg some_char, if_pos blanks, Option.map_some]

theorem partFault?_eq_some_iff {part : TagPart} {text : String} {e : QueryError} :
    partFault? part text = some e ↔ IsFaulty text ∧ partError part text = e := by
  by_cases faulty : IsFaulty text
  · simp [partFault?_of_isFaulty faulty, faulty]
  · simp [(partFault?_eq_none_iff part text).2 (not_isFaulty_iff.1 faulty), faulty]

theorem errorClass_partError (part : TagPart) (text : String) :
    (partError part text).errorClass = .badTerm := by
  rw [partError]
  split <;> rfl

/-- The message about a part. It says that the part is empty exactly if it is. -/
structure IsAbout (message : String) (part : TagPart) (text : String) : Prop where
  empty_iff : message = "Tag " ++ part.word ++ " cannot be empty" ↔ text = ""
  blank : text ≠ "" →
    message = "Tag " ++ part.word ++ " " ++ Text.quoted text ++ " cannot contain spaces"

namespace QueryError

theorem message_emptyPart (part : TagPart) : (emptyPart part).message =
    "Tag " ++ (part.word ++ (" " ++ "cannot be empty")) := by
  have after_space : " cannot be empty" = " " ++ "cannot be empty" := by decide
  dsimp only [message]
  rw [String.append_assoc, after_space]

theorem message_blankInPart (part : TagPart) (text : String) : (blankInPart part text).message =
    "Tag " ++ (part.word ++ (" " ++ (Text.quoted text ++ " cannot contain spaces"))) := by
  dsimp only [message]
  simp only [String.append_assoc]

/-- Where one wording goes on with a letter, the other one opens a quote. -/
theorem message_blankInPart_ne (part : TagPart) (text : String) :
    (blankInPart part text).message ≠ (emptyPart part).message := by
  intro same
  simp only [message_blankInPart, message_emptyPart, String.append_right_inj] at same
  have first := congrArg (fun s => s.toList.head?) same
  simp only [Text.quoted, Text.quotedChars, Text.quoteFor] at first
  split at first <;> simp at first

end QueryError

theorem isAbout_iff {message : String} {part : TagPart} {text : String} :
    IsAbout message part text ↔ message = (partError part text).message := by
  by_cases empty : text = ""
  · rw [partError, if_pos empty]
    constructor
    · exact fun about => about.empty_iff.2 empty
    · rintro rfl
      exact ⟨iff_of_true rfl empty, fun some_char => absurd empty some_char⟩
  · rw [partError, if_neg empty]
    constructor
    · exact fun about => about.blank empty
    · rintro rfl
      exact ⟨iff_of_false (QueryError.message_blankInPart_ne part text) empty, fun _ => rfl⟩

/-! ### Formulas -/

/-- Key and value. -/
def TagTerm.parts (t : TagTerm) : List (TagPart × String) := [(.key, t.key), (.value, t.value)]

theorem TagTerm.fault?_eq_findSome? (t : TagTerm) :
    t.fault? = t.parts.findSome? fun p => partFault? p.1 p.2 := by
  rw [fault?, parts, List.findSome?_cons, List.findSome?_cons]
  cases partFault? .key t.key <;> cases partFault? .value t.value <;> rfl

namespace TagFormula

/-- The keys and values of a formula, from left to right. -/
def parts : TagFormula → List (TagPart × String)
  | single t => t.parts
  | combined left right _ => left.parts ++ right.parts

/-- The part is faulty, and no part before it is. -/
def FirstFaulty (f : TagFormula) (part : TagPart) (text : String) : Prop :=
  IsFaulty text ∧
    ∃ before after, f.parts = before ++ (part, text) :: after ∧ ∀ p ∈ before, ¬ IsFaulty p.2

variable {f : TagFormula} {photos : List Photo}

theorem fault?_eq_findSome? (f : TagFormula) :
    f.fault? = f.parts.findSome? fun p => partFault? p.1 p.2 := by
  cases f with
  | single t => rw [fault?, terms, parts, List.findSome?_singleton, t.fault?_eq_findSome?]
  | combined left right op =>
    rw [fault?, terms, parts, List.findSome?_append, ← left.fault?_eq_findSome?,
      ← right.fault?_eq_findSome?, List.findSome?_cons, List.findSome?_singleton]
    cases left.fault? <;> rfl

theorem fault?_eq_some_iff {e : QueryError} : f.fault? = some e ↔
    ∃ part text, f.FirstFaulty part text ∧ partError part text = e := by
  have tokens : ∀ p : TagPart × String, partFault? p.1 p.2 = none ↔ ¬ IsFaulty p.2 := by
    intro p
    rw [partFault?_eq_none_iff, not_isFaulty_iff]
  rw [fault?_eq_findSome?, List.findSome?_eq_some_iff]
  simp only [tokens, partFault?_eq_some_iff]
  constructor
  · rintro ⟨before, ⟨part, text⟩, after, split, ⟨faulty, error⟩, sound⟩
    exact ⟨part, text, ⟨faulty, before, after, split, sound⟩, error⟩
  · rintro ⟨part, text, ⟨faulty, before, after, split, sound⟩, error⟩
    exact ⟨before, (part, text), after, split, ⟨faulty, error⟩, sound⟩

theorem fault?_eq_none_iff : f.fault? = none ↔ ∀ p ∈ f.parts, ¬ IsFaulty p.2 := by
  simp only [fault?_eq_findSome?, List.findSome?_eq_none_iff, partFault?_eq_none_iff,
    not_isFaulty_iff]

/-- A formula is at fault because one of its terms is no pair of tokens. -/
theorem errorClass_of_fault? {e : QueryError} (h : f.fault? = some e) : e.errorClass = .badTerm := by
  obtain ⟨part, text, -, rfl⟩ := fault?_eq_some_iff.1 h
  exact errorClass_partError part text

theorem evaluate_of_fault? {e : QueryError} (h : f.fault? = some e) :
    f.evaluate photos = .error (.query e) := by
  simp only [evaluate, test, h, Except.map]

theorem evaluate_eq_error_iff {fault : Fault} :
    f.evaluate photos = .error fault ↔ ∃ e, f.fault? = some e ∧ fault = .query e := by
  cases h : f.fault? with
  | none => simp [evaluate_of_fault?_eq_none h]
  | some e => simp [evaluate_of_fault? h, eq_comm]

/-- What is raised is about the first faulty part. -/
theorem raises_evaluate_iff {message : String} : Raises (f.evaluate photos) ⟨.badTerm, message⟩ ↔
    ∃ part text, f.FirstFaulty part text ∧ IsAbout message part text := by
  constructor
  · rintro ⟨e, failed, same⟩
    obtain ⟨e', fault, same'⟩ := evaluate_eq_error_iff.1 failed
    cases same'
    obtain ⟨part, text, first, rfl⟩ := fault?_eq_some_iff.1 fault
    obtain ⟨-, worded⟩ := Raised.mk.inj same
    exact ⟨part, text, first, isAbout_iff.2 worded.symm⟩
  · rintro ⟨part, text, first, about⟩
    have fault : f.fault? = some (partError part text) :=
      fault?_eq_some_iff.2 ⟨part, text, first, rfl⟩
    rw [evaluate_of_fault? fault, raises_error_iff, errorClass_partError, isAbout_iff.1 about]

/-- There is a first faulty part exactly if there is a faulty one. -/
theorem exists_firstFaulty_iff :
    (∃ part text, f.FirstFaulty part text) ↔ ∃ p ∈ f.parts, IsFaulty p.2 := by
  constructor
  · rintro ⟨part, text, faulty, before, after, split, -⟩
    exact ⟨(part, text), by simp [split], faulty⟩
  · rintro ⟨p, member, faulty⟩
    cases fault : f.fault? with
    | none => exact absurd faulty (fault?_eq_none_iff.1 fault p member)
    | some e =>
      obtain ⟨part, text, first, -⟩ := fault?_eq_some_iff.1 fault
      exact ⟨part, text, first⟩

theorem exists_raises_evaluate_iff :
    (∃ message, Raises (f.evaluate photos) ⟨.badTerm, message⟩) ↔ ∃ p ∈ f.parts, IsFaulty p.2 := by
  rw [← exists_firstFaulty_iff]
  simp only [raises_evaluate_iff]
  constructor
  · rintro ⟨message, part, text, first, -⟩
    exact ⟨part, text, first⟩
  · rintro ⟨part, text, first⟩
    exact ⟨_, part, text, first, isAbout_iff.2 rfl⟩

/-- The formula is refused exactly if a key or a value in it is faulty, the message is about the first
such part, and the photos make no difference. Otherwise the photos are found that the formula holds
of, in their order. -/
structure RefusedExactly (f : TagFormula) (photos : List Photo) : Prop where
  refused_iff : (∃ message, Raises (f.evaluate photos) ⟨.badTerm, message⟩) ↔
    ∃ p ∈ f.parts, IsFaulty p.2
  message_iff : ∀ message, Raises (f.evaluate photos) ⟨.badTerm, message⟩ ↔
    ∃ part text, f.FirstFaulty part text ∧ IsAbout message part text
  photos_alike : ∀ photos' fault, f.evaluate photos = .error fault → f.evaluate photos' = .error fault
  found : (∀ p ∈ f.parts, ¬ IsFaulty p.2) → f.evaluate photos = .ok (photos.filter f.holds)
  holds_iff : ∀ p, f.holds p = true ↔ f.Meets p

theorem refusedExactly (f : TagFormula) (photos : List Photo) : f.RefusedExactly photos where
  refused_iff := exists_raises_evaluate_iff
  message_iff _ := raises_evaluate_iff
  photos_alike photos' fault failed := by
    rw [evaluate_eq_error_iff] at failed ⊢
    exact failed
  found sound := evaluate_of_fault?_eq_none (fault?_eq_none_iff.2 sound) photos
  holds_iff := f.holds_iff_meets

end TagFormula

/-- Formulas are refused exactly for their faulty parts. With either connective a faulty term on the
right is enough, whatever the term on the left finds. -/
theorem formulas_are_refused_exactly (photos : List Photo) :
    (∀ f : TagFormula, f.RefusedExactly photos) ∧
      ∀ (left right : TagTerm) (op : Connective), IsFaulty right.key ∨ IsFaulty right.value →
        ∃ message, Raises ((TagFormula.combined left right op).evaluate photos) ⟨.badTerm, message⟩ := by
  refine ⟨fun f => f.refusedExactly photos, fun left right op faulty => ?_⟩
  rw [TagFormula.exists_raises_evaluate_iff]
  rcases faulty with key | value
  · exact ⟨(.key, right.key), by simp [TagFormula.parts, TagTerm.parts], key⟩
  · exact ⟨(.value, right.value), by simp [TagFormula.parts, TagTerm.parts], value⟩

/-- The term on the left is met by the photo, and the value on the right holds a blank. -/
example : (TagFormula.combined ⟨"city", "Paris"⟩ ⟨"person", "John Smith"⟩ .or).evaluate
    [⟨.given "p", ⟨Date.epoch, .midnight, none⟩, ⟨[⟨"city", "Paris"⟩]⟩, none, none⟩] =
    .error (.query (.blankInPart .value "John Smith")) := rfl

end PhotoSearch
