import Mathlib
import PhotoSearch.Catalog.Library
import PhotoSearch.Settings

/-!
Free names. The candidates for a name all differ, so of one more than there are names one is free; the
name that is taken is the first free one. A loop that tries one candidate after the other ends there.
-/

namespace PhotoSearch

theorem Text.decimal_natCast (n : Nat) : (Text.decimal n).toList = Text.numeral n := by
  rw [Text.decimal, Text.paddedString, String.toList_ofList, Text.padded_natCast, Text.zeroFill,
    Nat.zero_sub, List.replicate_zero, List.nil_append]

theorem toList_candidateName_succ (base : String) (n : Nat) :
    (candidateName base (n + 1)).toList = base.toList ++ Text.numeral (n + 1) := by
  rw [candidateName, String.toList_append, Text.decimal_natCast]

theorem length_lt_length_candidateName_succ (base : String) (n : Nat) :
    base.toList.length < (candidateName base (n + 1)).toList.length := by
  have digits : 0 < (Text.numeral (n + 1)).length := Nat.length_toDigits_pos
  rw [toList_candidateName_succ, List.length_append]
  omega

/-- Different numbers make different candidates, and each is longer than the base alone. -/
theorem candidateName_injective (base : String) : Function.Injective (candidateName base) := by
  intro m n h
  have chars : (candidateName base m).toList = (candidateName base n).toList := by rw [h]
  cases m with
  | zero =>
    cases n with
    | zero => rfl
    | succ n =>
      have longer := length_lt_length_candidateName_succ base n
      rw [← chars] at longer
      exact absurd longer (Nat.lt_irrefl _)
  | succ m =>
    cases n with
    | zero =>
      have longer := length_lt_length_candidateName_succ base m
      rw [chars] at longer
      exact absurd longer (Nat.lt_irrefl _)
    | succ n =>
      rw [toList_candidateName_succ, toList_candidateName_succ, List.append_cancel_left_eq] at chars
      have values := congrArg Text.digitsValue chars
      rwa [Text.digitsValue_numeral, Text.digitsValue_numeral] at values

theorem candidateName_ne_empty {base : String} (h : base ≠ "") (n : Nat) :
    candidateName base n ≠ "" := by
  cases n with
  | zero => exact h
  | succ n =>
    intro empty
    have longer := length_lt_length_candidateName_succ base n
    rw [empty] at longer
    exact absurd longer (Nat.not_lt_zero _)

/-- Not all of one candidate more than there are names can be taken. -/
theorem exists_candidateName_notMem (names : List String) (base : String) :
    ∃ n ≤ names.length, candidateName base n ∉ names := by
  refine Decidable.byContradiction fun none => ?_
  have taken : ∀ n ≤ names.length, candidateName base n ∈ names := by
    intro n hn
    refine Decidable.byContradiction fun free => none ⟨n, hn, free⟩
  have different : ((List.range (names.length + 1)).map (candidateName base)).Nodup :=
    List.nodup_range.map (candidateName_injective base)
  have among : (List.range (names.length + 1)).map (candidateName base) ⊆ names := by
    intro name h
    obtain ⟨n, hn, rfl⟩ := List.mem_map.1 h
    exact taken n (Nat.le_of_lt_succ (List.mem_range.1 hn))
  have fewer := (List.subperm_of_subset different among).length_le
  rw [List.length_map, List.length_range] at fewer
  exact absurd fewer (Nat.not_succ_le_self _)

/-- The first free candidate, and that it comes after at most as many as there are names. -/
theorem firstFree_spec (names : List String) (base : String) :
    ∃ n ≤ names.length, firstFree names base = candidateName base n ∧
      candidateName base n ∉ names ∧ ∀ m < n, candidateName base m ∈ names := by
  cases found : (List.range names.length).find? fun n => decide (candidateName base n ∉ names) with
  | some n =>
    obtain ⟨free, range, before⟩ := List.find?_range_eq_some.1 found
    refine ⟨n, Nat.le_of_lt (List.mem_range.1 range), ?_, of_decide_eq_true free, ?_⟩
    · rw [firstFree, found, Option.getD_some]
    · intro m hm
      simpa using before m hm
  | none =>
    have taken : ∀ m < names.length, candidateName base m ∈ names := by
      intro m hm
      have notFree := List.find?_eq_none.1 found m (List.mem_range.2 hm)
      simpa using notFree
    obtain ⟨n, hn, free⟩ := exists_candidateName_notMem names base
    have last : n = names.length := by
      rcases Nat.lt_or_eq_of_le hn with before | last
      · exact absurd (taken n before) free
      · exact last
    subst last
    refine ⟨_, Nat.le_refl _, ?_, free, taken⟩
    rw [firstFree, found, Option.getD_none]

theorem firstFree_notMem (names : List String) (base : String) : firstFree names base ∉ names := by
  obtain ⟨n, -, name, free, -⟩ := firstFree_spec names base
  rw [name]
  exact free

namespace Library

theorem freeName_notMem (l : Library) (usual : String) (base : Option String) :
    l.freeName usual base ∉ l.albums.map Album.name :=
  firstFree_notMem _ _

/-- The base itself, or the usual name where the base is absent or empty. -/
def stem (usual : String) : Option String → String
  | none => usual
  | some base => if base = "" then usual else base

theorem stem_ne_empty {usual : String} (h : usual ≠ "") (base : Option String) :
    stem usual base ≠ "" := by
  cases base with
  | none => exact h
  | some b =>
    simp only [stem]
    split
    · exact h
    · assumption

theorem freeName_eq (l : Library) (usual : String) (base : Option String) :
    l.freeName usual base = firstFree (l.albums.map Album.name) (stem usual base) := by
  cases base with
  | none => rfl
  | some b =>
    by_cases empty : b = ""
    · simp [freeName, stem, Option.filter, empty]
    · simp [freeName, stem, Option.filter, empty]

/-- A free name is never empty unless the usual name is. -/
theorem freeName_ne_empty {usual : String} (h : usual ≠ "") (l : Library) (base : Option String) :
    l.freeName usual base ≠ "" := by
  obtain ⟨n, -, name, -, -⟩ := firstFree_spec (l.albums.map Album.name) (stem usual base)
  rw [freeName_eq, name]
  exact candidateName_ne_empty (stem_ne_empty h base) n

theorem album?_isSome_iff (l : Library) (name : String) :
    (l.album? name).isSome ↔ name ∈ l.albums.map Album.name := by
  simp [album?]

theorem add_of_notMem {l : Library} {a : Album} (h : a.name ∉ l.albums.map Album.name) :
    l.add a = .ok { l with albums := l.albums ++ [a] } :=
  if_neg fun taken => h ((album?_isSome_iff l a.name).1 taken)

/-- What is added has a name that was not there. -/
theorem nodup_names_of_add {l l' : Library} {a : Album} (h : l.add a = .ok l')
    (distinct : (l.albums.map Album.name).Nodup) : (l'.albums.map Album.name).Nodup := by
  by_cases taken : a.name ∈ l.albums.map Album.name
  · rw [add, if_pos ((album?_isSome_iff l a.name).2 taken)] at h
    cases h
  · rw [add_of_notMem taken] at h
    cases h
    rw [List.map_append, List.map_singleton, List.nodup_append]
    refine ⟨distinct, List.nodup_singleton _, ?_⟩
    intro name hn other ho same
    rw [List.mem_singleton.1 ho] at same
    exact taken (same ▸ hn)

theorem albumFor_eq_ok {usual : String} (h : usual ≠ "") (l : Library) (photos : List Photo)
    (base : Option String) :
    l.albumFor usual photos base = .ok ⟨l.freeName usual base, photos⟩ := by
  rw [albumFor, Album.named, albumName_of_ne (freeName_ne_empty h l base), Except.map]

end Library

/-! ### Trying candidates -/

/-- The candidate that is tried, and the number that the next one is to end in. -/
structure Trial where
  candidate : String
  count : Nat

namespace Trial

def first (base : String) : Trial := ⟨base, 1⟩

def next (base : String) (t : Trial) : Trial := ⟨base ++ Text.decimal t.count, t.count + 1⟩

/-- The trial that comes after `n` others. -/
def nth (base : String) (n : Nat) : Trial := ⟨candidateName base n, n + 1⟩

theorem nth_zero (base : String) : nth base 0 = first base := rfl

theorem next_nth (base : String) (n : Nat) : next base (nth base n) = nth base (n + 1) := rfl

end Trial

namespace Library

/-- Trying one candidate after the other, from one trial on, comes to an end: so many candidates are
names of albums, and that of the last trial is not. -/
inductive Tries (l : Library) (base : String) : Trial → Nat → Trial → Prop
  | done {t : Trial} (free : l.album? t.candidate = none) : Tries l base t 0 t
  | next {t last : Trial} {n : Nat} (taken : (l.album? t.candidate).isSome)
    (rest : Tries l base (t.next base) n last) : Tries l base t (n + 1) last

variable {l : Library} {base : String}

/-- What a run of trials has found out when it ends. -/
theorem Tries.spec {k n : Nat} {last : Trial} (h : l.Tries base (Trial.nth base k) n last) :
    last = Trial.nth base (k + n) ∧ l.album? (candidateName base (k + n)) = none ∧
      ∀ m < n, (l.album? (candidateName base (k + m))).isSome := by
  induction n generalizing k with
  | zero =>
    cases h with
    | done free => exact ⟨rfl, free, fun m hm => absurd hm (Nat.not_lt_zero m)⟩
  | succ n ih =>
    cases h with
    | next taken rest =>
      rw [Trial.next_nth] at rest
      obtain ⟨same, free, before⟩ := ih rest
      rw [Nat.add_right_comm, Nat.add_assoc] at same free
      refine ⟨same, free, fun m hm => ?_⟩
      cases m with
      | zero => exact taken
      | succ m =>
        have earlier := before m (Nat.lt_of_succ_lt_succ hm)
        rwa [Nat.add_right_comm, Nat.add_assoc] at earlier

theorem tries_nth {k n : Nat} (free : l.album? (candidateName base (k + n)) = none)
    (taken : ∀ m < n, (l.album? (candidateName base (k + m))).isSome) :
    l.Tries base (Trial.nth base k) n (Trial.nth base (k + n)) := by
  induction n generalizing k with
  | zero => exact .done free
  | succ n ih =>
    have shift : ∀ m, k + (m + 1) = k + 1 + m := fun m => by omega
    rw [shift n] at free ⊢
    have head := taken 0 (Nat.succ_pos n)
    refine .next head (ih free fun m hm => ?_)
    rw [← shift m]
    exact taken (m + 1) (Nat.succ_lt_succ hm)

/-- From the first trial on there is one run, up to the first candidate that is free. -/
theorem tries_first_iff {n : Nat} (free : l.album? (candidateName base n) = none)
    (taken : ∀ m < n, (l.album? (candidateName base m)).isSome) (m : Nat) (last : Trial) :
    l.Tries base (Trial.first base) m last ↔ m = n ∧ last = Trial.nth base n := by
  rw [← Trial.nth_zero]
  constructor
  · intro run
    obtain ⟨same, free', taken'⟩ := run.spec
    simp only [Nat.zero_add] at same free' taken'
    rcases Nat.lt_trichotomy m n with before | rfl | behind
    · have known := taken m before
      rw [free'] at known
      cases known
    · exact ⟨rfl, same⟩
    · have known := taken' n behind
      rw [free] at known
      cases known
  · rintro ⟨rfl, rfl⟩
    have run := @tries_nth l base 0 m
    simp only [Nat.zero_add] at run
    exact run free taken

/-- The loop over the candidates ends, in one way only, after no more trials than there are albums and
one; the name that it ends with is not empty and no album's, and all candidates before it are names of
albums. -/
structure FirstFree (l : Library) (base name : String) (n : Nat) : Prop where
  bounded : n ≤ l.albums.length
  ends : ∀ m last, l.Tries base (Trial.first base) m last ↔ m = n ∧ last = ⟨name, n + 1⟩
  name_eq : name = candidateName base n
  ne_empty : name ≠ ""
  free : ∀ a ∈ l.albums, a.name ≠ name
  earlier : ∀ m < n, ∃ a ∈ l.albums, a.name = candidateName base m

/-- Whatever names the albums have, and whatever base and usual name are asked for, trying candidates
ends at the free name. -/
theorem freeName_is_first_free (l : Library) (settings : Settings) (base : Option String) :
    ∃ n, l.FirstFree (stem settings.resultsName base) (l.freeName settings.resultsName base) n := by
  obtain ⟨n, bounded, name, free, earlier⟩ :=
    firstFree_spec (l.albums.map Album.name) (stem settings.resultsName base)
  rw [← freeName_eq] at name
  rw [List.length_map] at bounded
  have unused : l.album? (candidateName (stem settings.resultsName base) n) = none := by
    rw [← Option.not_isSome_iff_eq_none, album?_isSome_iff]
    exact free
  have used : ∀ m < n, (l.album? (candidateName (stem settings.resultsName base) m)).isSome :=
    fun m hm => (album?_isSome_iff l _).2 (earlier m hm)
  refine ⟨n, bounded, fun m last => ?_, name, ?_, ?_, fun m hm => ?_⟩
  · rw [tries_first_iff unused used, Trial.nth, name]
  · exact freeName_ne_empty settings.resultsName_ne_empty l base
  · rw [name]
    exact (album?_eq_none_iff l _).1 unused
  · exact List.mem_map.1 (earlier m hm)

end Library

end PhotoSearch
