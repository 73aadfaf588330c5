import PhotoSearch.Proofs.Session.Names
import PhotoSearch.Proofs.Session.Validity

/-!
Tag sets over runs of calls. What a call can make of the tags is listed once, with what it had to find
for it; tags stay valid, and no call makes a second copy of a tag. The tags that a session holds go
through exactly these changes.
-/

namespace PhotoSearch

namespace TagSet

variable {s u : TagSet} {t : Tag}

/-! ### Single calls -/

theorem of_add_eq_ok {key value : Data} (h : s.add key value = .ok (u, t)) :
    t.Valid ∧ t ∉ s.tags ∧ u.tags = s.tags ++ [t] := by
  obtain ⟨read, inserted⟩ := add_eq_ok_iff.1 h
  exact ⟨Reading.ensures_tag _ _ _ read, insert?_eq_some_iff.1 inserted⟩

/-- A key and a value are added exactly if both are tokens and the tag is not there. -/
theorem exists_add_eq_ok_iff (s : TagSet) (key value : String) :
    (∃ u t, s.add (.str key) (.str value) = .ok (u, t)) ↔
      (IsToken key ∧ IsToken value) ∧ ⟨key, value⟩ ∉ s.tags := by
  have either : (∃ u t, s.add (.str key) (.str value) = .ok (u, t)) ↔
      ¬ ∃ r, s.add (.str key) (.str value) = .error r := by
    cases s.add (.str key) (.str value) with
    | ok new => exact iff_of_true ⟨new.1, new.2, rfl⟩ (by simp)
    | error r => exact iff_of_false (by simp) (by simp)
  rw [either, exists_add_eq_error_iff, not_or, not_not]
  rfl

theorem add_str_eq_ok {key value : String} (h : s.add (.str key) (.str value) = .ok (u, t)) :
    t = ⟨key, value⟩ :=
  (Reading.tag_fields_eq_good_iff.1 (add_eq_ok_iff.1 h).1).1

theorem isSome_remove?_iff (s : TagSet) (key value : String) :
    (s.remove? key value).isSome = true ↔ ⟨key, value⟩ ∈ s.tags := by
  rw [← contains_iff, remove?]
  split <;> simp_all

/-- The first copy goes, and what stood before it and behind it stays in order. -/
theorem exists_of_remove? {key value : String} (h : s.remove? key value = some u) :
    ∃ before behind, ⟨key, value⟩ ∉ before ∧ s.tags = before ++ ⟨key, value⟩ :: behind ∧
      u.tags = before ++ behind := by
  obtain ⟨present, erased⟩ := remove?_eq_some_iff.1 h
  obtain ⟨before, behind, absent, whole, rest⟩ := List.exists_erase_eq present
  exact ⟨before, behind, absent, whole, erased.trans rest⟩

theorem remove?_of_tags_eq {key value : String} (absent : ⟨key, value⟩ ∉ s.tags)
    (h : u.tags = s.tags ++ [⟨key, value⟩]) : u.remove? key value = some s := by
  rw [remove?_eq_some_iff, h, List.erase_append_right _ absent]
  simp

/-! ### Values -/

/-- The values of a key stand in the order of the tags. -/
theorem map_values_sublist (s : TagSet) (key : String) :
    ((s.values key).map (Tag.mk key)).Sublist s.tags := by
  -- Put back beside the key, the values are the tags that have this key.
  have own : (s.values key).map (Tag.mk key) = s.tags.filter fun t => t.key == key := by
    rw [values, List.map_map]
    conv_rhs => rw [← List.map_id (s.tags.filter _)]
    apply List.map_congr_left
    intro t member
    have same : t.key = key := by simpa using (List.mem_filter.1 member).2
    rw [← same]
    rfl
  rw [own]
  exact List.filter_sublist

/-- Each value of a key is there as often as the tag. -/
theorem count_values (s : TagSet) (key value : String) :
    (s.values key).count value = s.tags.count ⟨key, value⟩ := by
  rw [values, List.count, List.countP_map, List.countP_filter, List.count]
  apply List.countP_congr
  intro t _
  cases t
  simp [and_comm]

/-! ### Calls one after the other -/

/-- The tags after a call. A call that is refused, or that only asks, leaves them as they are. -/
def after (s : TagSet) : TagAction → TagSet
  | .add key value =>
    match s.add key value with
    | .ok (more, _) => more
    | .error _ => s
  | .remove key value => (s.remove? key value).getD s
  | _ => s

/-- The tags after all the calls. -/
def afterAll (s : TagSet) (calls : List TagAction) : TagSet := calls.foldl after s

/-- The tags that a call can lead to. -/
inductive Becomes (s : TagSet) : TagAction → TagSet → Prop
  | same (call : TagAction) : Becomes s call s
  | added {key value : Data} {t : Tag} (valid : t.Valid) (absent : t ∉ s.tags) :
    Becomes s (.add key value) ⟨s.tags ++ [t]⟩
  | removed {key value : String} (present : ⟨key, value⟩ ∈ s.tags) :
    Becomes s (.remove key value) ⟨s.tags.erase ⟨key, value⟩⟩

theorem becomes_after (s : TagSet) (call : TagAction) : s.Becomes call (s.after call) := by
  cases call with
  | add key value =>
    simp only [after]
    split
    · rename_i more t added
      obtain ⟨valid, absent, appended⟩ := of_add_eq_ok added
      cases more
      cases appended
      exact .added valid absent
    · exact .same _
  | remove key value =>
    simp only [after]
    cases removed : s.remove? key value with
    | some less =>
      obtain ⟨present, erased⟩ := remove?_eq_some_iff.1 removed
      cases less
      cases erased
      exact .removed present
    | none => exact .same _
  | _ => exact .same _

/-- What holds at first and is kept by every call holds in the end. -/
theorem afterAll_keeps {P : TagSet → Prop} (step : ∀ {s call u}, P s → s.Becomes call u → P u)
    (h : P s) (calls : List TagAction) : P (s.afterAll calls) := by
  induction calls generalizing s with
  | nil => exact h
  | cons call rest ih => exact ih (step h (s.becomes_after call))

theorem Valid.becomes {call : TagAction} (h : s.Valid) (led : s.Becomes call u) : u.Valid := by
  cases led with
  | same => exact h
  | added valid absent => exact List.forall_mem_append.2 ⟨h, by simpa using valid⟩
  | removed present => exact fun t member => h t (List.mem_of_mem_erase member)

theorem Valid.afterAll (h : s.Valid) (calls : List TagAction) : (s.afterAll calls).Valid :=
  afterAll_keeps Valid.becomes h calls

/-- A call makes more copies only of a tag that is not there, and then one. -/
theorem Becomes.count_le {call : TagAction} (h : s.Becomes call u) (t : Tag) :
    u.tags.count t ≤ max 1 (s.tags.count t) := by
  cases h with
  | same => exact Nat.le_max_right _ _
  | @added _ _ new _ absent =>
    by_cases same : new = t
    · subst same
      simp [List.count_eq_zero.2 absent]
    · simp [same]
  | removed present =>
    exact (List.erase_sublist.count_le t).trans (Nat.le_max_right _ _)

theorem count_afterAll_le (s : TagSet) (calls : List TagAction) (t : Tag) :
    (s.afterAll calls).tags.count t ≤ max 1 (s.tags.count t) := by
  refine afterAll_keeps (P := fun u => u.tags.count t ≤ max 1 (s.tags.count t)) ?_ ?_ calls
  · intro u call v bound led
    exact (led.count_le t).trans (max_le (le_max_left _ _) bound)
  · exact le_max_right _ _

/-- What adding and removing do, and what a tag set says when it is asked. -/
structure Lawful (s : TagSet) : Prop where
  add_iff : ∀ key value, (∃ u t, s.add (.str key) (.str value) = .ok (u, t)) ↔
    (IsToken key ∧ IsToken value) ∧ ⟨key, value⟩ ∉ s.tags
  added : ∀ key value u t, s.add (.str key) (.str value) = .ok (u, t) →
    s.after (.add (.str key) (.str value)) = u ∧ t = ⟨key, value⟩ ∧
      u.tags = s.tags ++ [⟨key, value⟩] ∧ u.remove? key value = some s
  not_added : ∀ key value r, s.add (.str key) (.str value) = .error r →
    s.after (.add (.str key) (.str value)) = s
  remove_iff : ∀ key value, (s.remove? key value).isSome = true ↔ ⟨key, value⟩ ∈ s.tags
  removed : ∀ key value u, s.remove? key value = some u → s.after (.remove key value) = u ∧
    ∃ before behind, ⟨key, value⟩ ∉ before ∧ s.tags = before ++ ⟨key, value⟩ :: behind ∧
      u.tags = before ++ behind
  not_removed : ∀ key value, s.remove? key value = none → s.after (.remove key value) = s
  contains_iff : ∀ key value, s.contains key value = true ↔ value ∈ s.values key
  values_in_order : ∀ key, ((s.values key).map (Tag.mk key)).Sublist s.tags
  values_complete : ∀ key value, (s.values key).count value = s.tags.count ⟨key, value⟩

theorem lawful (s : TagSet) : s.Lawful where
  add_iff := s.exists_add_eq_ok_iff
  added key value u t h := by
    obtain rfl := add_str_eq_ok h
    obtain ⟨-, absent, appended⟩ := of_add_eq_ok h
    exact ⟨by simp only [after, h], rfl, appended, remove?_of_tags_eq absent appended⟩
  not_added key value r h := by simp only [after, h]
  remove_iff := s.isSome_remove?_iff
  removed key value u h := ⟨by rw [after, h, Option.getD_some], exists_of_remove? h⟩
  not_removed key value h := by rw [after, h, Option.getD_none]
  contains_iff key value := (s.mem_values_iff key value).symm
  values_in_order := s.map_values_sublist
  values_complete := s.count_values

end TagSet

/-! ### Sessions -/

theorem Ref.modify_modify {α : Type} (r : Ref α) (f g : α → α) (table : List α) :
    r.modify g (r.modify f table) = r.modify (g ∘ f) table :=
  List.modify_modify_eq f g r.index table

theorem Ref.modify_eq_self {α : Type} {r : Ref α} {table : List α} {a : α} {f : α → α}
    (stored : r.get? table = some a) (same : f a = a) : r.modify f table = table := by
  apply List.ext_getElem?
  intro i
  rw [Ref.modify, List.getElem?_modify]
  split
  · rename_i here
    subst here
    simp only [Ref.get?] at stored
    simp [stored, same]
  · simp

namespace Session

variable {s : Session} {holder : String} {tags : TagSet} {replace : TagSet → Store}

theorem replace_self (held : s.tagHolder holder = .ok (tags, replace)) :
    replace tags = s.store := by
  rcases tagHolder_cases held with ⟨r, stored, rfl⟩ | ⟨r, v, stored, rfl, rfl⟩
  · rw [Store.setTagSet, Ref.modify_eq_self stored rfl]
  · rw [Store.setPhotoTags, Ref.modify_eq_self stored rfl]

/-- Once the tags are replaced, the same name holds the new ones, and can have them replaced again. -/
theorem tagHolder_of_replaced (held : s.tagHolder holder = .ok (tags, replace)) {s' : Session}
    {u : TagSet} (names : s'.names = s.names) (store : s'.store = replace u) :
    s'.tagHolder holder = .ok (u, replace) := by
  obtain ⟨b, found, selected⟩ := resolve_eq_ok_iff.1 held
  -- The name still refers to the same object; replacing twice there is replacing once.
  refine resolve_eq_ok_iff.2 ⟨b, by rw [find?, names]; exact found, ?_⟩
  cases b with
  | tagSet r =>
    obtain ⟨t, stored, same⟩ := Option.map_eq_some_iff.1 selected
    cases same
    have again : (s.store.setTagSet r u).setTagSet r = s.store.setTagSet r := by
      funext v
      simp only [Store.setTagSet, Ref.modify_modify]
      rfl
    simp only [store, again]
    simp only [Store.setTagSet, Ref.get?_modify_self, stored, Option.map_some]
  | photo r =>
    obtain ⟨p, stored, same⟩ := Option.map_eq_some_iff.1 selected
    cases same
    have again : (s.store.setPhotoTags r u).setPhotoTags r = s.store.setPhotoTags r := by
      funext v
      simp only [Store.setPhotoTags, Ref.modify_modify]
      rfl
    simp only [store, again]
    simp only [Store.setPhotoTags, Ref.get?_modify_self, stored, Option.map_some]
  | _ => cases selected

theorem bindName_none (names : List (String × Binding)) (name : Option String) :
    bindName names name none = names := by cases name <;> rfl

/-- A step that calls on tags replaces them by the tags after the call. -/
theorem objects_step_onTags (held : s.tagHolder holder = .ok (tags, replace)) (call : TagAction)
    (saveAs : Option String) :
    (s.step ⟨.onTags holder call, saveAs⟩).1.names = s.names ∧
      (s.step ⟨.onTags holder call, saveAs⟩).1.store = replace (tags.after call) := by
  have kept := replace_self held
  rw [step, perform_onTags held]
  cases call with
  | add key value =>
    simp only [onTags, TagSet.after]
    cases tags.add key value with
    | ok added => exact ⟨bindName_none _ _, rfl⟩
    | error r => exact ⟨rfl, kept.symm⟩
  | remove key value =>
    simp only [onTags, TagSet.after]
    cases tags.remove? key value with
    | some less => exact ⟨bindName_none _ _, rfl⟩
    | none => exact ⟨bindName_none _ _, kept.symm⟩
  | _ => exact ⟨bindName_none _ _, kept.symm⟩

/-- Steps that call on the tags of one name lead to the tags after these calls. -/
theorem tagHolder_run (held : s.tagHolder holder = .ok (tags, replace)) (calls : List TagAction) :
    (s.run (calls.map fun call => ⟨.onTags holder call, none⟩)).1.tagHolder holder =
      .ok (tags.afterAll calls, replace) := by
  induction calls generalizing s tags with
  | nil => exact held
  | cons call rest ih =>
    obtain ⟨names, store⟩ := objects_step_onTags held call none
    rw [List.map_cons, run_cons]
    exact ih (tagHolder_of_replaced held names store)

end Session

/-- After any calls, adding, removing and asking obey their laws, and no tag has more copies than one or
than it had at first. In a session the tags of a photo, or of a tag set by itself, go through the same
changes when they are called on in the same order. -/
theorem calls_obey_laws (initial : TagSet) (calls : List TagAction) :
    (initial.afterAll calls).Lawful ∧
    (∀ t, (initial.afterAll calls).tags.count t ≤ max 1 (initial.tags.count t)) ∧
    ∀ (s : Session) (holder : String) (replace : TagSet → Store),
      s.tagHolder holder = .ok (initial, replace) →
      (s.run (calls.map fun call => ⟨.onTags holder call, none⟩)).1.tagHolder holder =
        .ok (initial.afterAll calls, replace) :=
  ⟨(initial.afterAll calls).lawful, initial.count_afterAll_le calls,
    fun _ _ _ held => Session.tagHolder_run held calls⟩

end PhotoSearch
