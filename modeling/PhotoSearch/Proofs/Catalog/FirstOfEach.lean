import Mathlib
import PhotoSearch.Catalog.Photo

/-!
The first item of each key. It is said by places which items these are; more items add only those of
new keys, and a filter that treats the items of one key alike may come before or after.
-/

namespace PhotoSearch

section FirstOfEach

variable {α κ : Type} [DecidableEq κ] {key : α → κ}

/-- Of what was seen only the keys of the items themselves matter. -/
theorem firstOfEachFrom_congr {seen seen' : List κ} {items : List α}
    (h : ∀ a ∈ items, (key a ∈ seen ↔ key a ∈ seen')) :
    firstOfEachFrom key seen items = firstOfEachFrom key seen' items := by
  induction items generalizing seen seen' with
  | nil => rfl
  | cons a rest ih =>
    have head := h a List.mem_cons_self
    have tail : ∀ b ∈ rest, (key b ∈ seen ↔ key b ∈ seen') :=
      fun b hb => h b (List.mem_cons_of_mem a hb)
    simp only [firstOfEachFrom]
    by_cases known : key a ∈ seen
    · rw [if_pos known, if_pos (head.1 known), ih tail]
    · rw [if_neg known, if_neg fun known' => known (head.2 known')]
      have tail' : ∀ b ∈ rest, (key b ∈ key a :: seen ↔ key b ∈ key a :: seen') := by
        intro b hb
        rw [List.mem_cons, List.mem_cons, tail b hb]
      rw [ih tail']

theorem firstOfEachFrom_append (seen : List κ) (items more : List α) :
    firstOfEachFrom key seen (items ++ more) =
      firstOfEachFrom key seen items ++ firstOfEachFrom key (items.map key ++ seen) more := by
  induction items generalizing seen with
  | nil => rfl
  | cons a rest ih =>
    simp only [List.cons_append, firstOfEachFrom]
    by_cases known : key a ∈ seen
    · have again : firstOfEachFrom key (rest.map key ++ seen) more =
          firstOfEachFrom key ((a :: rest).map key ++ seen) more := by
        apply firstOfEachFrom_congr
        intro b _
        by_cases same : key b = key a <;> simp [same, known]
      rw [if_pos known, if_pos known, ih, again]
    · have again : firstOfEachFrom key (rest.map key ++ key a :: seen) more =
          firstOfEachFrom key ((a :: rest).map key ++ seen) more := by
        apply firstOfEachFrom_congr
        intro b _
        simp only [List.map_cons, List.mem_append, List.mem_cons, List.cons_append]
        exact or_left_comm
      rw [if_neg known, if_neg known, ih, again, List.cons_append]

/-- A filter that does not tell items of one key apart may be applied before the choice. -/
theorem filter_firstOfEachFrom {p : α → Bool} {items : List α}
    (h : ∀ a ∈ items, ∀ b ∈ items, key a = key b → p a = p b) (seen : List κ) :
    (firstOfEachFrom key seen items).filter p = firstOfEachFrom key seen (items.filter p) := by
  induction items generalizing seen with
  | nil => rfl
  | cons a rest ih =>
    have tail : ∀ b ∈ rest, ∀ c ∈ rest, key b = key c → p b = p c := fun b hb c hc =>
      h b (List.mem_cons_of_mem a hb) c (List.mem_cons_of_mem a hc)
    simp only [firstOfEachFrom]
    by_cases known : key a ∈ seen
    · rw [if_pos known, ih tail]
      by_cases kept : p a = true
      · rw [List.filter_cons_of_pos kept, firstOfEachFrom, if_pos known]
      · rw [List.filter_cons_of_neg kept]
    · rw [if_neg known]
      by_cases kept : p a = true
      · rw [List.filter_cons_of_pos kept, List.filter_cons_of_pos kept, firstOfEachFrom,
          if_neg known, ih tail]
      · -- no later item of this key is kept, so it does not matter that the key was seen
        have unseen : firstOfEachFrom key (key a :: seen) (rest.filter p) =
            firstOfEachFrom key seen (rest.filter p) := by
          apply firstOfEachFrom_congr
          intro b hb
          obtain ⟨member, kept'⟩ := List.mem_filter.1 hb
          have other : key b ≠ key a := by
            intro same
            have alike := h b (List.mem_cons_of_mem a member) a List.mem_cons_self same
            exact kept (alike ▸ kept')
          simp [other]
        rw [List.filter_cons_of_neg kept, List.filter_cons_of_neg kept, ih tail, unseen]

theorem filter_firstOfEach {p : α → Bool} {items : List α}
    (h : ∀ a ∈ items, ∀ b ∈ items, key a = key b → p a = p b) :
    (firstOfEach key items).filter p = firstOfEach key (items.filter p) :=
  filter_firstOfEachFrom h []

/-- To have seen keys is to leave their items out. -/
theorem firstOfEachFrom_append_seen (seen before : List κ) (items : List α) :
    firstOfEachFrom key (seen ++ before) items =
      firstOfEachFrom key seen (items.filter fun a => decide (key a ∉ before)) := by
  induction items generalizing seen with
  | nil => rfl
  | cons a rest ih =>
    by_cases old : key a ∈ before
    · have known : key a ∈ seen ++ before := List.mem_append_right seen old
      rw [firstOfEachFrom, if_pos known, List.filter_cons_of_neg (by simpa using old), ih]
    · rw [List.filter_cons_of_pos (by simpa using old), firstOfEachFrom, firstOfEachFrom]
      by_cases known : key a ∈ seen
      · rw [if_pos known, if_pos (List.mem_append_left before known), ih]
      · have fresh : key a ∉ seen ++ before := by
          rw [List.mem_append, not_or]
          exact ⟨known, old⟩
        rw [if_neg known, if_neg fresh, ← List.cons_append, ih]

/-- More items add the first of each of their keys that was not there before. -/
theorem firstOfEach_append (items more : List α) :
    firstOfEach key (items ++ more) = firstOfEach key items ++
      (firstOfEach key more).filter fun b => decide (key b ∉ items.map key) := by
  have behind : firstOfEachFrom key (items.map key ++ []) more =
      (firstOfEach key more).filter fun b => decide (key b ∉ items.map key) := by
    rw [filter_firstOfEach fun a _ b _ same => by rw [same], firstOfEach,
      ← firstOfEachFrom_append_seen, List.append_nil, List.nil_append]
  rw [← behind]
  exact firstOfEachFrom_append [] items more

/-- Where items stand at places that go up, the first of each key are those before whose places no
item has their key. -/
theorem firstOfEachFrom_placed {ι : Type} [LinearOrder ι] (seen : List κ) {items : List (α × ι)}
    (up : items.Pairwise fun a b => a.2 < b.2) :
    firstOfEachFrom key seen (items.map Prod.fst) =
      (items.filter fun a => decide (key a.1 ∉ seen ∧
        ∀ b ∈ items, b.2 < a.2 → key b.1 ≠ key a.1)).map Prod.fst := by
  induction up generalizing seen with
  | nil => rfl
  | @cons a rest first _ ih =>
    -- at the head no item is earlier, and for those behind the head is one more earlier item
    have head : ∀ b ∈ a :: rest, ¬ b.2 < a.2 := by
      intro b hb
      rcases List.mem_cons.1 hb with rfl | hb
      · exact lt_irrefl _
      · exact (first b hb).asymm
    have tail : ∀ c ∈ rest, ((∀ b ∈ a :: rest, b.2 < c.2 → key b.1 ≠ key c.1) ↔
        key c.1 ≠ key a.1 ∧ ∀ b ∈ rest, b.2 < c.2 → key b.1 ≠ key c.1) := by
      intro c hc
      rw [List.forall_mem_cons, ne_comm (a := key c.1)]
      exact and_congr_left' (forall_prop_of_true (first c hc))
    rw [List.map_cons, firstOfEachFrom]
    by_cases known : key a.1 ∈ seen
    · rw [if_pos known, ih, List.filter_cons_of_neg (by simp [known])]
      congr 1
      apply List.filter_congr
      intro c hc
      rw [decide_eq_decide, tail c hc]
      constructor
      · rintro ⟨fresh, earlier⟩
        exact ⟨fresh, fun same => fresh (same ▸ known), earlier⟩
      · rintro ⟨fresh, -, earlier⟩
        exact ⟨fresh, earlier⟩
    · have kept : key a.1 ∉ seen ∧ ∀ b ∈ a :: rest, b.2 < a.2 → key b.1 ≠ key a.1 :=
        ⟨known, fun b hb earlier => absurd earlier (head b hb)⟩
      rw [if_neg known, ih, List.filter_cons_of_pos (by simpa using kept), List.map_cons]
      congr 2
      apply List.filter_congr
      intro c hc
      rw [decide_eq_decide, tail c hc, List.mem_cons, not_or, and_assoc, and_left_comm]

/-- The items before which, at their own position, no item has their key. -/
def newcomers (key : α → κ) (items : List α) : List α :=
  (items.zipIdx.filter fun a : α × Nat => decide (∀ b ∈ items.take a.2, key b ≠ key a.1)).map Prod.fst

theorem pairwise_zipIdx (items : List α) : items.zipIdx.Pairwise fun a b => a.2 < b.2 := by
  rw [← List.pairwise_map, List.zipIdx_map_snd]
  exact List.pairwise_lt_range'

theorem firstOfEach_eq_newcomers (items : List α) : firstOfEach key items = newcomers key items := by
  have earlier : ∀ (n : Nat) (k : κ), (∀ b ∈ items.zipIdx, b.2 < n → key b.1 ≠ k) ↔
      ∀ b ∈ items.take n, key b ≠ k := by
    intro n k
    constructor
    · intro h b hb
      obtain ⟨i, hi, rfl⟩ := List.mem_take_iff_getElem.1 hb
      exact h (_, i) (List.mem_zipIdx_iff_getElem?.2 (List.getElem?_eq_getElem _)) (by omega)
    · rintro h ⟨b, i⟩ hb before
      have stands := List.mem_zipIdx_iff_getElem?.1 hb
      exact h b (List.mem_of_getElem? ((List.getElem?_take_of_lt before).trans stands))
  have placed : firstOfEachFrom key [] (items.zipIdx.map Prod.fst) = _ :=
    firstOfEachFrom_placed [] (pairwise_zipIdx items)
  rw [List.zipIdx_map_fst] at placed
  rw [firstOfEach, placed, newcomers]
  congr 1
  apply List.filter_congr
  intro a _
  simp only [List.not_mem_nil, not_false_eq_true, true_and, earlier]

theorem map_firstOfEachFrom (seen : List κ) (items : List α) :
    (firstOfEachFrom key seen items).map key =
      ((items.map key).filter fun k => decide (k ∉ seen)).eraseDups := by
  induction items generalizing seen with
  | nil => rfl
  | cons a rest ih =>
    simp only [firstOfEachFrom, List.map_cons]
    by_cases known : key a ∈ seen
    · rw [if_pos known, ih, List.filter_cons_of_neg (by simpa using known)]
    · rw [if_neg known, List.filter_cons_of_pos (by simpa using known), List.map_cons, ih,
        List.eraseDups_cons, List.filter_filter]
      congr 3
      funext k
      by_cases same : k = key a <;> simp [same]

/-- The keys that are left are the keys of all items, each at its first place. -/
theorem map_firstOfEach (items : List α) :
    (firstOfEach key items).map key = (items.map key).eraseDups := by
  have all : (items.map key).filter (fun k => decide (k ∉ ([] : List κ))) = items.map key := by
    simp
  rw [firstOfEach, map_firstOfEachFrom, all]

theorem mem_map_firstOfEach {items : List α} {k : κ} :
    k ∈ (firstOfEach key items).map key ↔ k ∈ items.map key := by
  rw [map_firstOfEach, List.mem_eraseDups]

theorem nodup_map_firstOfEach (items : List α) : ((firstOfEach key items).map key).Nodup :=
  nodup_firstOfEachFrom key [] items

/-- Items that stand for others, each kept at the first place of its key; those that stand for none
share a key of their own. -/
theorem filterMap_firstOfEachFrom {β : Type} {key : β → κ} (f : α → Option β)
    {seen : List (Option κ)} {seen' : List κ} (h : ∀ k, some k ∈ seen ↔ k ∈ seen')
    (items : List α) :
    (firstOfEachFrom (fun a => (f a).map key) seen items).filterMap f =
      firstOfEachFrom key seen' (items.filterMap f) := by
  induction items generalizing seen seen' with
  | nil => rfl
  | cons a rest ih =>
    cases value : f a with
    | none =>
      have skipped : ∀ k, some k ∈ none :: seen ↔ k ∈ seen' := by
        intro k
        rw [List.mem_cons, ← h k]
        exact or_iff_right (Option.some_ne_none k)
      simp only [firstOfEachFrom, value, Option.map_none, List.filterMap_cons]
      split
      · exact ih h
      · rw [List.filterMap_cons, value]
        exact ih skipped
    | some b =>
      have added : ∀ k, some k ∈ some (key b) :: seen ↔ k ∈ key b :: seen' := by
        intro k
        rw [List.mem_cons, List.mem_cons, Option.some_inj, h k]
      simp only [firstOfEachFrom, value, Option.map_some, List.filterMap_cons, h]
      split
      · exact ih h
      · rw [List.filterMap_cons, value]
        exact congrArg (b :: ·) (ih added)

end FirstOfEach

end PhotoSearch
