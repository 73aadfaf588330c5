import PhotoSearch.Text.Blank

/-! Tags, and the ordered set of tags that a photo carries. -/

namespace PhotoSearch

/-- Why a text cannot be the key or the value of a tag. -/
inductive TokenFault where
  | empty
  | blank
deriving DecidableEq

def tokenFault? (s : String) : Option TokenFault :=
  if s = "" then some .empty
  else if s.toList.any Text.isBlank then some .blank
  else none

/-- A text without blanks that is not empty. -/
def IsToken (s : String) : Prop := s ≠ "" ∧ ∀ c ∈ s.toList, Text.isBlank c = false

theorem tokenFault?_eq_none_iff (s : String) : tokenFault? s = none ↔ IsToken s := by
  simp only [tokenFault?, IsToken]
  split <;> simp_all

structure Tag where
  key : String
  value : String
deriving DecidableEq

def Tag.Valid (t : Tag) : Prop := IsToken t.key ∧ IsToken t.value

/-- The tags of one photo, in order. A key may come with several values. -/
structure TagSet where
  tags : List Tag
deriving DecidableEq

namespace TagSet

def empty : TagSet := ⟨[]⟩

def size (s : TagSet) : Nat := s.tags.length

def contains (s : TagSet) (key value : String) : Bool :=
  s.tags.any fun t => t.key == key && t.value == value

theorem contains_iff (s : TagSet) (key value : String) :
    s.contains key value = true ↔ (⟨key, value⟩ : Tag) ∈ s.tags := by
  simp only [contains, List.any_eq_true, Bool.and_eq_true, beq_iff_eq]
  constructor
  · rintro ⟨t, ht, rfl, rfl⟩; exact ht
  · intro h; exact ⟨_, h, rfl, rfl⟩

/-- The values that come with a key, in order. -/
def values (s : TagSet) (key : String) : List String :=
  (s.tags.filter fun t => t.key == key).map Tag.value

theorem mem_values_iff (s : TagSet) (key value : String) :
    value ∈ s.values key ↔ s.contains key value = true := by
  rw [contains_iff]
  simp only [values, List.mem_map, List.mem_filter, beq_iff_eq]
  constructor
  · rintro ⟨t, ⟨ht, rfl⟩, rfl⟩; exact ht
  · intro h; exact ⟨_, ⟨h, rfl⟩, rfl⟩

/-- Puts a tag at the end, unless it is there already. -/
def insert? (s : TagSet) (t : Tag) : Option TagSet :=
  if t ∈ s.tags then none else some ⟨s.tags ++ [t]⟩

theorem insert?_eq_some_iff {s u : TagSet} {t : Tag} :
    s.insert? t = some u ↔ t ∉ s.tags ∧ u.tags = s.tags ++ [t] := by
  cases u
  simp only [insert?]
  split <;> simp_all [eq_comm]

/-- Takes the first tag with this key and value away; `none` if there is none. -/
def remove? (s : TagSet) (key value : String) : Option TagSet :=
  if s.contains key value then some ⟨s.tags.erase ⟨key, value⟩⟩ else none

theorem remove?_eq_some_iff {s u : TagSet} {key value : String} :
    s.remove? key value = some u ↔
      ⟨key, value⟩ ∈ s.tags ∧ u.tags = s.tags.erase ⟨key, value⟩ := by
  cases u
  simp only [remove?, contains_iff]
  split <;> simp_all [eq_comm]

end TagSet

end PhotoSearch
