import PhotoSearch.Proofs.Session.Values

/-!
What holds of the objects of a session after any steps. Reading checks an object once, when it is
made; every later change has to check for itself. Tags go on to be made of tokens and albums to have
names, and what is refused changes nothing.
-/

namespace PhotoSearch

/-! ### Tags -/

namespace TagSet

variable {s u : TagSet}

theorem Valid.add (h : s.Valid) {key value : Data} {t : Tag} (added : s.add key value = .ok (u, t)) :
    u.Valid := by
  obtain ⟨read, inserted⟩ := add_eq_ok_iff.1 added
  have valid : t.Valid := Reading.ensures_tag _ _ _ read
  rw [Valid, (insert?_eq_some_iff.1 inserted).2]
  exact List.forall_mem_append.2 ⟨h, by simpa using valid⟩

theorem Valid.remove (h : s.Valid) {key value : String} (removed : s.remove? key value = some u) :
    u.Valid := by
  intro tag member
  rw [(remove?_eq_some_iff.1 removed).2] at member
  exact h tag (List.mem_of_mem_erase member)

/-- A key and a value are refused for one of two reasons. -/
theorem exists_add_eq_error_iff (s : TagSet) (key value : String) :
    (∃ r, s.add (.str key) (.str value) = .error r) ↔
      ¬ Tag.Valid ⟨key, value⟩ ∨ ⟨key, value⟩ ∈ s.tags := by
  by_cases valid : Tag.Valid ⟨key, value⟩
  · have read : Reading.tag (.root 0) (.object [("key", .str key), ("value", .str value)]) =
        .good ⟨key, value⟩ := Reading.tag_readsBack valid _
    by_cases present : (⟨key, value⟩ : Tag) ∈ s.tags
    · simp [TagSet.add, read, insert?, present]
    · simp [TagSet.add, read, insert?, present, valid]
  · cases read : Reading.tag (.root 0) (.object [("key", .str key), ("value", .str value)]) with
    | good t =>
      obtain ⟨rfl, valid'⟩ := Reading.tag_fields_eq_good_iff.1 read
      exact absurd valid' valid
    | bad issues => simp [TagSet.add, read, valid]

end TagSet

/-! ### Stores -/

theorem Ref.forall_mem_modify {α : Type} {P : α → Prop} {table : List α} (h : ∀ a ∈ table, P a)
    {f : α → α} (hf : ∀ a ∈ table, P (f a)) (r : Ref α) : ∀ a ∈ r.modify f table, P a := by
  intro a member
  obtain ⟨i, found⟩ := List.mem_iff_getElem?.1 member
  rw [Ref.modify, List.getElem?_modify] at found
  obtain ⟨b, old, changed⟩ := Option.map_eq_some_iff.1 found
  have stored : b ∈ table := List.mem_of_getElem? old
  split at changed
  · rw [← changed]
    exact hf b stored
  · rw [← changed]
    exact h b stored

theorem Ref.mem_of_get? {α : Type} {r : Ref α} {table : List α} {a : α}
    (h : r.get? table = some a) : a ∈ table := List.mem_of_getElem? h

namespace Store

/-- Every object is what was read from some data. -/
structure FromData (s : Store) : Prop where
  tagSets : ∀ t ∈ s.tagSets, ∃ p d, Reading.tagSet p d = .good t
  photos : ∀ v ∈ s.photos, ∃ p d, Reading.photo p d = .good v
  albums : ∀ a ∈ s.albums, ∃ p d, Reading.album p d = .good (s.albumOf a)
  libraries : ∀ l ∈ s.libraries, ∃ p d, Reading.library p d = .good (s.libraryOf l)

/-- The keys and the values of all tags are tokens, the zones of all timestamps are shown by their texts,
and all albums have names. -/
structure Valid (s : Store) : Prop where
  tagSets : ∀ t ∈ s.tagSets, t.Valid
  photos : ∀ v ∈ s.photos, v.Valid
  names : ∀ a ∈ s.albums, a.name ≠ ""

variable {s : Store}

theorem FromData.valid (h : s.FromData) : s.Valid := by
  refine ⟨fun t member => ?_, fun v member => ?_, fun a member => ?_⟩
  · obtain ⟨p, d, read⟩ := h.tagSets t member
    exact Reading.ensures_tagSet p d t read
  · obtain ⟨p, d, read⟩ := h.photos v member
    exact Reading.ensures_photo p d v read
  · obtain ⟨p, d, read⟩ := h.albums a member
    exact (Reading.ensures_album p d (s.albumOf a) read).name

theorem mem_photos_of_mem_photosOf {refs : List (Ref Photo)} {v : Photo}
    (h : v ∈ s.photosOf refs) : v ∈ s.photos := by
  obtain ⟨r, -, stored⟩ := List.mem_filterMap.1 h
  exact Ref.mem_of_get? stored

namespace Valid

variable (h : s.Valid)

include h

theorem albumOf {a : StoredAlbum} (ha : a ∈ s.albums) : (s.albumOf a).Valid :=
  ⟨h.names a ha, fun v member => h.photos v (mem_photos_of_mem_photosOf member)⟩

theorem libraryOf (l : StoredLibrary) : (s.libraryOf l).Valid := by
  intro a member
  obtain ⟨b, stored, rfl⟩ := List.mem_map.1 member
  obtain ⟨r, -, found⟩ := List.mem_filterMap.1 stored
  exact h.albumOf (Ref.mem_of_get? found)

/-- Valid objects can be read from data, if their photos were given identities. -/
theorem fromData (hid : ∀ v ∈ s.photos, v.HasId) : s.FromData := by
  have ids : ∀ a, (s.albumOf a).HasIds := fun a v member =>
    hid v (mem_photos_of_mem_photosOf member)
  refine ⟨fun t member => ?_, fun v member => ?_, fun a member => ?_, fun l member => ?_⟩
  · exact ⟨.root 0, _, Reading.tagSet_readsBack (h.tagSets t member) _⟩
  · exact ⟨.root 0, _, Reading.photo_readsBack (h.photos v member) (hid v member) _⟩
  · exact ⟨.root 0, _, Reading.album_readsBack (h.albumOf member) (ids a) _⟩
  · refine ⟨.root 0, _, Reading.library_readsBack (h.libraryOf l) (fun b held => ?_) _⟩
    obtain ⟨a, -, rfl⟩ := List.mem_map.1 held
    exact ids a

theorem putTagSet {t : TagSet} (ht : t.Valid) : (s.putTagSet t).1.Valid :=
  { h with tagSets := List.forall_mem_append.2 ⟨h.tagSets, by simpa using ht⟩ }

theorem putPhoto {v : Photo} (hv : v.Valid) : (s.putPhoto v).1.Valid :=
  { h with photos := List.forall_mem_append.2 ⟨h.photos, by simpa using hv⟩ }

theorem putAlbum {a : StoredAlbum} (ha : a.name ≠ "") : (s.putAlbum a).1.Valid :=
  { h with names := List.forall_mem_append.2 ⟨h.names, by simpa using ha⟩ }

theorem putLibrary (l : StoredLibrary) : (s.putLibrary l).1.Valid := ⟨h.tagSets, h.photos, h.names⟩

theorem putOutcome (o : StoredOutcome) : (s.putOutcome o).1.Valid := ⟨h.tagSets, h.photos, h.names⟩

theorem setTagSet (r : Ref TagSet) {t : TagSet} (ht : t.Valid) : (s.setTagSet r t).Valid :=
  { h with tagSets := Ref.forall_mem_modify h.tagSets (fun _ _ => ht) r }

theorem setPhotoTags (r : Ref Photo) {t : TagSet} (ht : t.Valid) : (s.setPhotoTags r t).Valid := by
  refine { h with photos := Ref.forall_mem_modify h.photos ?_ r }
  intro v stored
  exact ⟨ht, (h.photos v stored).timestamp⟩

theorem setAlbum (r : Ref StoredAlbum) {a : StoredAlbum} (ha : a.name ≠ "") :
    (s.setAlbum r a).Valid :=
  { h with names := Ref.forall_mem_modify h.names (fun _ _ => ha) r }

theorem setLibrary (r : Ref StoredLibrary) (l : StoredLibrary) : (s.setLibrary r l).Valid :=
  ⟨h.tagSets, h.photos, h.names⟩

end Valid

theorem name_of_withoutPhoto? {a b : StoredAlbum} {id : PhotoId}
    (h : s.withoutPhoto? a id = some b) : b.name = a.name := by
  simp only [withoutPhoto?] at h
  split at h <;> cases h
  rfl

end Store

/-! ### Effects -/

/-- The action answers, keeps the settings, and makes a valid store out of a valid one. -/
structure Effect.Sound (s : Session) (e : Effect) : Prop where
  answers : ∃ d, e.reply = .ok d
  settings : e.settings = s.settings
  valid : s.store.Valid → e.store.Valid

namespace Session

variable {s : Session} {e : Effect}

theorem sound_answer (s : Session) (reply : Data) : (s.answer reply).Sound s :=
  ⟨⟨reply, rfl⟩, rfl, id⟩

theorem sound_change {store : Store} (h : s.store.Valid → store.Valid) (reply : Data) :
    (s.change store reply).Sound s := ⟨⟨reply, rfl⟩, rfl, h⟩

theorem sound_make {store : Store} (h : s.store.Valid → store.Valid) (b : Binding) :
    (s.make store b).Sound s := ⟨⟨_, rfl⟩, rfl, h⟩

/-- The tags of a holder are valid, and any valid ones can take their place. -/
theorem tagHolder_valid {name : String} {tags : TagSet} {replace : TagSet → Store}
    (h : s.tagHolder name = .ok (tags, replace)) (valid : s.store.Valid) :
    tags.Valid ∧ ∀ t : TagSet, t.Valid → (replace t).Valid := by
  rcases tagHolder_cases h with ⟨r, stored, rfl⟩ | ⟨r, v, stored, rfl, rfl⟩
  · exact ⟨valid.tagSets tags (Ref.mem_of_get? stored), fun _ ht => valid.setTagSet r ht⟩
  · exact ⟨(valid.photos v (Ref.mem_of_get? stored)).tags, fun _ ht => valid.setPhotoTags r ht⟩

theorem onTags_sound {name : String} {tags : TagSet} {replace : TagSet → Store}
    (held : s.tagHolder name = .ok (tags, replace)) {action : TagAction}
    (h : s.onTags tags replace action = .ok e) : e.Sound s := by
  cases action with
  | add key value =>
    simp only [onTags] at h
    split at h
    · rename_i added
      cases h
      refine sound_change (fun valid => ?_) _
      obtain ⟨old, replaced⟩ := tagHolder_valid held valid
      exact replaced _ (old.add added)
    · cases h
  | remove key value =>
    simp only [onTags] at h
    split at h
    · rename_i removed
      cases h
      refine sound_change (fun valid => ?_) _
      obtain ⟨old, replaced⟩ := tagHolder_valid held valid
      exact replaced _ (old.remove removed)
    · cases h
      exact sound_answer s _
  | _ =>
    cases h
    exact sound_answer s _

theorem onAlbum_sound {name : String} {r : Ref StoredAlbum} {a : StoredAlbum}
    (found : s.album name = .ok (r, a)) {action : AlbumAction}
    (h : s.onAlbum r a action = .ok e) : e.Sound s := by
  have named : s.store.Valid → a.name ≠ "" := fun valid =>
    valid.names a (Ref.mem_of_get? (get?_of_album found))
  cases action with
  | insert photo =>
    obtain ⟨p, -, h⟩ := exceptBind_eq_ok_iff.1 h
    cases h
    refine sound_change (fun valid => valid.setAlbum r ?_) _
    exact named valid
  | remove choice =>
    obtain ⟨id, -, h⟩ := exceptBind_eq_ok_iff.1 h
    split at h
    · rename_i left removed
      cases h
      refine sound_change (fun valid => valid.setAlbum r ?_) _
      rw [Store.name_of_withoutPhoto? removed]
      exact named valid
    · cases h
      exact sound_answer s _
  | rename new =>
    by_cases empty : new = ""
    · simp [onAlbum, albumName, empty] at h
    · simp only [onAlbum, albumName_of_ne empty] at h
      cases h
      exact sound_change (fun valid => valid.setAlbum r empty) _
  | size =>
    cases h
    exact sound_answer s _
  | firstTime | lastTime =>
    simp only [onAlbum, answerTime] at h
    split at h <;> cases h
    exact sound_answer s _

theorem makeAlbum_sound {name : Data} {items : List Binding}
    (h : s.makeAlbum name items = .ok e) : e.Sound s := by
  obtain ⟨a, accepted, h⟩ := exceptBind_eq_ok_iff.1 h
  cases h
  refine sound_make (fun valid => valid.putAlbum ?_) _
  have checked := Checked.accept_eq_ok_iff.1 accepted
  obtain ⟨g, photos, first, -, rfl⟩ := Checked.seq_eq_good_iff.1 checked
  obtain ⟨new, read, rfl⟩ := Checked.map_eq_good_iff.1 first
  exact Reading.ensures_albumName _ _ _ read

theorem onLibrary_sound {r : Ref StoredLibrary} {l : StoredLibrary} {action : LibraryAction}
    (h : s.onLibrary r l action = .ok e) : e.Sound s := by
  cases action with
  | insert name =>
    obtain ⟨⟨a, album⟩, -, h⟩ := exceptBind_eq_ok_iff.1 h
    simp only at h
    split at h <;> cases h
    exact sound_make (fun valid => valid.setLibrary r _) _
  | albumFor source base =>
    obtain ⟨items, -, h⟩ := exceptBind_eq_ok_iff.1 h
    exact makeAlbum_sound h
  | find name =>
    cases h
    exact sound_make id _
  | photos | freeName base =>
    cases h
    exact sound_answer s _

/-- Every action but the setting of variables has a sound effect, if it has one. -/
theorem perform_sound {action : Action} (h : s.perform action = .ok e)
    (other : ∀ assignments, action ≠ .assign assignments) : e.Sound s := by
  cases action with
  | makePhoto data =>
    obtain ⟨v, accepted, h⟩ := exceptBind_eq_ok_iff.1 h
    cases h
    have read := Reading.ensures_photo _ _ v (Checked.accept_eq_ok_iff.1 accepted)
    exact sound_make (fun valid => valid.putPhoto read) _
  | makeTagSet data =>
    obtain ⟨t, accepted, h⟩ := exceptBind_eq_ok_iff.1 h
    cases h
    have read := Reading.ensures_tagSet _ _ t (Checked.accept_eq_ok_iff.1 accepted)
    exact sound_make (fun valid => valid.putTagSet read) _
  | makeAlbum name photos =>
    obtain ⟨items, -, h⟩ := exceptBind_eq_ok_iff.1 h
    exact makeAlbum_sound h
  | makeLibrary owner albums =>
    obtain ⟨items, -, h⟩ := exceptBind_eq_ok_iff.1 h
    obtain ⟨l, -, h⟩ := exceptBind_eq_ok_iff.1 h
    cases h
    exact sound_make (fun valid => valid.putLibrary l) _
  | makeMode strict =>
    cases h
    exact sound_make id _
  | onTags holder action =>
    obtain ⟨⟨tags, replace⟩, held, h⟩ := exceptBind_eq_ok_iff.1 h
    exact onTags_sound held h
  | onAlbum name action =>
    obtain ⟨⟨r, a⟩, found, h⟩ := exceptBind_eq_ok_iff.1 h
    exact onAlbum_sound found h
  | onLibrary name action =>
    obtain ⟨⟨r, l⟩, -, h⟩ := exceptBind_eq_ok_iff.1 h
    exact onLibrary_sound h
  | search raw source mode =>
    obtain ⟨m, -, h⟩ := exceptBind_eq_ok_iff.1 h
    obtain ⟨items, -, h⟩ := exceptBind_eq_ok_iff.1 h
    obtain ⟨o, -, h⟩ := exceptBind_eq_ok_iff.1 h
    cases h
    exact sound_make (fun valid => valid.putOutcome o) _
  | raise name =>
    obtain ⟨o, -, h⟩ := exceptBind_eq_ok_iff.1 h
    split at h <;> cases h
    exact sound_answer s _
  | assign assignments => exact absurd rfl (other assignments)
  | dump name =>
    obtain ⟨b, -, h⟩ := exceptBind_eq_ok_iff.1 h
    cases h
    exact sound_answer s _

/-! ### Refusals -/

/-- One of the operations that change tags, albums and libraries or make an album of results, with
any texts for its arguments, where the objects that it speaks of are there. -/
inductive Addresses (s : Session) : Action → Prop
  | addTag {holder : String} {tags : TagSet} {replace : TagSet → Store}
    (held : s.tagHolder holder = .ok (tags, replace)) (key value : String) :
    Addresses s (.onTags holder (.add (.str key) (.str value)))
  | removeTag {holder : String} {tags : TagSet} {replace : TagSet → Store}
    (held : s.tagHolder holder = .ok (tags, replace)) (key value : String) :
    Addresses s (.onTags holder (.remove key value))
  | addPhoto {name photo : String} {r : Ref StoredAlbum} {a : StoredAlbum} {p : Ref Photo}
    (found : s.album name = .ok (r, a)) (given : s.photoRef photo = .ok p) :
    Addresses s (.onAlbum name (.insert photo))
  | removePhoto {name : String} {choice : PhotoChoice} {r : Ref StoredAlbum} {a : StoredAlbum}
    {id : PhotoId} (found : s.album name = .ok (r, a)) (chosen : s.chosenId choice = .ok id) :
    Addresses s (.onAlbum name (.remove choice))
  | rename {name : String} {r : Ref StoredAlbum} {a : StoredAlbum}
    (found : s.album name = .ok (r, a)) (new : String) :
    Addresses s (.onAlbum name (.rename new))
  | addAlbum {lib name : String} {r : Ref StoredLibrary} {l : StoredLibrary} {a : Ref StoredAlbum}
    {album : StoredAlbum} (library : s.library lib = .ok (r, l))
    (found : s.album name = .ok (a, album)) : Addresses s (.onLibrary lib (.insert name))
  | results {lib : String} {source : PhotoSource} {r : Ref StoredLibrary} {l : StoredLibrary}
    {refs : List (Ref Photo)} (library : s.library lib = .ok (r, l))
    (given : s.source source = .ok (refs.map .photo)) (base : Option String) :
    Addresses s (.onLibrary lib (.albumFor source (.ofOptionalString base)))

/-- The reasons to refuse such an operation. -/
inductive Refuses (s : Session) : Action → Prop
  | badTag {holder key value : String} {tags : TagSet} {replace : TagSet → Store}
    (held : s.tagHolder holder = .ok (tags, replace)) (h : ¬ Tag.Valid ⟨key, value⟩) :
    Refuses s (.onTags holder (.add (.str key) (.str value)))
  | tagPresent {holder key value : String} {tags : TagSet} {replace : TagSet → Store}
    (held : s.tagHolder holder = .ok (tags, replace)) (h : ⟨key, value⟩ ∈ tags.tags) :
    Refuses s (.onTags holder (.add (.str key) (.str value)))
  | emptyName {name : String} {r : Ref StoredAlbum} {a : StoredAlbum}
    (found : s.album name = .ok (r, a)) : Refuses s (.onAlbum name (.rename ""))
  | nameTaken {lib name : String} {r : Ref StoredLibrary} {l : StoredLibrary} {a : Ref StoredAlbum}
    {album : StoredAlbum} (library : s.library lib = .ok (r, l))
    (found : s.album name = .ok (a, album))
    (h : album.name ∈ (s.store.libraryOf l).albums.map Album.name) :
    Refuses s (.onLibrary lib (.insert name))

theorem exists_onTags_add_eq_error_iff (s : Session) (tags : TagSet) (replace : TagSet → Store)
    (key value : String) :
    (∃ f, s.onTags tags replace (.add (.str key) (.str value)) = .error f) ↔
      ¬ Tag.Valid ⟨key, value⟩ ∨ ⟨key, value⟩ ∈ tags.tags := by
  rw [← TagSet.exists_add_eq_error_iff, onTags]
  cases tags.add (.str key) (.str value) with
  | error r => simp
  | ok added => simp

theorem exists_insert_eq_error_iff {r : Ref StoredLibrary} {l : StoredLibrary} {name : String}
    {a : Ref StoredAlbum} {album : StoredAlbum} (found : s.album name = .ok (a, album)) :
    (∃ f, s.onLibrary r l (.insert name) = .error f) ↔
      album.name ∈ (s.store.libraryOf l).albums.map Album.name := by
  rw [← Library.album?_isSome_iff, ← isSome_albumNamed?]
  simp only [onLibrary, found, bind, Except.bind]
  by_cases taken : (s.albumNamed? l album.name).isSome
  · simp [taken, throw, throwThe, MonadExceptOf.throw]
  · simp [taken, pure, Except.pure]

theorem exists_perform_add_eq_error_iff {holder : String} {tags : TagSet}
    {replace : TagSet → Store} (held : s.tagHolder holder = .ok (tags, replace))
    (key value : String) :
    (∃ f, s.perform (.onTags holder (.add (.str key) (.str value))) = .error f) ↔
      s.Refuses (.onTags holder (.add (.str key) (.str value))) := by
  rw [perform_onTags held, exists_onTags_add_eq_error_iff]
  constructor
  · rintro (invalid | present)
    · exact .badTag held invalid
    · exact .tagPresent held present
  · intro refused
    cases refused with
    | badTag _ invalid => exact .inl invalid
    | tagPresent held' present =>
      cases held.symm.trans held'
      exact .inr present

theorem exists_perform_rename_eq_error_iff {name : String} {r : Ref StoredAlbum} {a : StoredAlbum}
    (found : s.album name = .ok (r, a)) (new : String) :
    (∃ f, s.perform (.onAlbum name (.rename new)) = .error f) ↔
      s.Refuses (.onAlbum name (.rename new)) := by
  rw [perform_onAlbum found]
  by_cases empty : new = ""
  · subst empty
    exact iff_of_true ⟨_, rfl⟩ (.emptyName found)
  · refine iff_of_false ?_ ?_
    · rintro ⟨f, failed⟩
      simp only [onAlbum, albumName_of_ne empty] at failed
      cases failed
    · intro refused
      cases refused
      exact empty rfl

theorem exists_perform_insert_eq_error_iff {lib name : String} {r : Ref StoredLibrary}
    {l : StoredLibrary} {a : Ref StoredAlbum} {album : StoredAlbum}
    (library : s.library lib = .ok (r, l)) (found : s.album name = .ok (a, album)) :
    (∃ f, s.perform (.onLibrary lib (.insert name)) = .error f) ↔
      s.Refuses (.onLibrary lib (.insert name)) := by
  rw [perform_onLibrary library, exists_insert_eq_error_iff found]
  constructor
  · exact .nameTaken library found
  · intro refused
    cases refused with
    | nameTaken library' found' taken =>
      cases library.symm.trans library'
      cases found.symm.trans found'
      exact taken

/-- Where its objects are there, an operation fails for the reasons listed and for no other. -/
theorem Addresses.exists_error_iff {action : Action} (h : s.Addresses action) :
    (∃ f, s.perform action = .error f) ↔ s.Refuses action := by
  cases h with
  | addTag held key value => exact exists_perform_add_eq_error_iff held key value
  | rename found new => exact exists_perform_rename_eq_error_iff found new
  | addAlbum library found => exact exists_perform_insert_eq_error_iff library found
  -- The other operations are never refused.
  | @removeTag holder tags replace held key value =>
    refine iff_of_false ?_ fun refused => by cases refused
    rintro ⟨f, failed⟩
    rw [perform_onTags held, onTags] at failed
    split at failed <;> cases failed
  | addPhoto found given =>
    refine iff_of_false ?_ fun refused => by cases refused
    rintro ⟨f, failed⟩
    rw [perform_onAlbum found, onAlbum, given] at failed
    cases failed
  | removePhoto found chosen =>
    refine iff_of_false ?_ fun refused => by cases refused
    rintro ⟨f, failed⟩
    simp only [perform_onAlbum found, onAlbum, chosen, bind, Except.bind] at failed
    split at failed <;> cases failed
  | @results lib source r l refs library given base =>
    obtain ⟨_, made, -⟩ :=
      exists_makeAlbum_nameFrom s.settings.resultsName_ne_empty s l base refs
    refine iff_of_false ?_ fun refused => by cases refused
    rintro ⟨f, failed⟩
    simp only [perform_onLibrary library, onLibrary, given, bind, Except.bind, made] at failed
    cases failed

theorem Addresses.ne_assign {action : Action} (h : s.Addresses action)
    (assignments : List (String × Data)) : action ≠ .assign assignments := by
  rintro rfl
  cases h

/-! ### Steps and runs -/

theorem step_of_perform_error {st : Step} {f : Failure} (h : s.perform st.action = .error f) :
    s.step st = ({ s with clock := s.clock + 1 }, .error f) := by
  rw [step, h]

/-- Setting variables can fail when some of them are set, but it changes no object in any case. -/
theorem objects_step_assign (s : Session) (assignments : List (String × Data))
    (saveAs : Option String) :
    (s.step ⟨.assign assignments, saveAs⟩).1.store = s.store ∧
      (s.step ⟨.assign assignments, saveAs⟩).1.names = s.names := by
  cases saveAs <;> exact ⟨rfl, rfl⟩

section Other

variable {st : Step} (other : ∀ assignments, st.action ≠ .assign assignments)

include other

theorem exists_step_error_iff :
    (∃ f, (s.step st).2 = .error f) ↔ ∃ f, s.perform st.action = .error f := by
  cases performed : s.perform st.action with
  | error f => simp [step_of_perform_error performed]
  | ok e =>
    obtain ⟨d, answers⟩ := (perform_sound performed other).answers
    simp [step, performed, answers]

theorem settings_step : (s.step st).1.settings = s.settings := by
  cases performed : s.perform st.action with
  | error f => rw [step_of_perform_error performed]
  | ok e =>
    rw [step, performed]
    exact (perform_sound performed other).settings

end Other

/-- A step that fails leaves the objects and their names as they were. -/
theorem objects_step_of_error {st : Step} {f : Failure} (h : (s.step st).2 = .error f) :
    (s.step st).1.store = s.store ∧ (s.step st).1.names = s.names := by
  obtain ⟨action, saveAs⟩ := st
  by_cases assigns : ∃ assignments, action = .assign assignments
  · obtain ⟨assignments, rfl⟩ := assigns
    exact objects_step_assign s assignments saveAs
  · obtain ⟨g, failed⟩ := (exists_step_error_iff (not_exists.1 assigns)).1 ⟨f, h⟩
    rw [step_of_perform_error failed]
    exact ⟨rfl, rfl⟩

theorem valid_step (h : s.store.Valid) (st : Step) : (s.step st).1.store.Valid := by
  obtain ⟨action, saveAs⟩ := st
  by_cases assigns : ∃ assignments, action = .assign assignments
  · obtain ⟨assignments, rfl⟩ := assigns
    rw [(objects_step_assign s assignments saveAs).1]
    exact h
  · cases performed : s.perform action with
    | error f =>
      rw [step_of_perform_error performed]
      exact h
    | ok e =>
      rw [step, performed]
      exact (perform_sound performed (not_exists.1 assigns)).valid h

theorem valid_run (h : s.store.Valid) (steps : List Step) : (s.run steps).1.store.Valid := by
  induction steps generalizing s with
  | nil => exact h
  | cons st rest ih =>
    rw [run_cons]
    exact ih (valid_step h st)

end Session

/-- From objects that were all read from data, any steps lead to valid objects. There, a step that
fails leaves all objects and names as they were; and an operation on tags, albums and libraries fails
exactly for one of the reasons to refuse it, and never touches the settings. -/
theorem objects_stay_valid {s t : Session} (h : s.store.FromData) (steps : List Step)
    (reached : (s.run steps).1 = t) :
    t.store.Valid ∧
    (∀ st f, (t.step st).2 = .error f →
      (t.step st).1.store = t.store ∧ (t.step st).1.names = t.names) ∧
    ∀ st, t.Addresses st.action →
      (t.step st).1.settings = t.settings ∧
      ((∃ f, (t.step st).2 = .error f) ↔ t.Refuses st.action) := by
  refine ⟨?_, fun st f => Session.objects_step_of_error, fun st addresses => ⟨?_, ?_⟩⟩
  · rw [← reached]
    exact Session.valid_run h.valid steps
  · exact Session.settings_step addresses.ne_assign
  · rw [Session.exists_step_error_iff addresses.ne_assign]
    exact addresses.exists_error_iff

/-- A library with one album, in which there is one photo with a tag. -/
def oneLibrary : Session where
  store :=
    { tagSets := []
      photos := [⟨.given "p", ⟨⟨2024, 5, 1, by decide, by decide, by decide⟩, .midnight, none⟩,
        ⟨[⟨"city", "Paris"⟩]⟩, none, none⟩]
      albums := [⟨"A", [⟨0⟩]⟩]
      libraries := [⟨"me", [⟨0⟩]⟩]
      outcomes := [] }
  names := [("p", .photo ⟨0⟩), ("a", .album ⟨0⟩), ("l", .library ⟨0⟩)]
  settings := .empty
  clock := 0

/-- Adds a second tag, tries to add one of two words, and gives the album another name. -/
def tagAndRename : List Step :=
  [⟨.onTags "p" (.add (.str "city") (.str "Rome")), none⟩,
    ⟨.onTags "p" (.add (.str "old town") (.str "yes")), none⟩, ⟨.onAlbum "a" (.rename "B"), none⟩]

theorem objects_stay_valid_oneLibrary :
    oneLibrary.store.FromData ∧ (oneLibrary.run tagAndRename).1.store.Valid ∧
    ∃ f, ((oneLibrary.run tagAndRename).1.step ⟨.onAlbum "a" (.rename ""), none⟩).2 = .error f ∧
      ((oneLibrary.run tagAndRename).1.step ⟨.onAlbum "a" (.rename ""), none⟩).1.store =
        (oneLibrary.run tagAndRename).1.store := by
  have valid : oneLibrary.store.Valid := ⟨by decide, by decide, by decide⟩
  have read : oneLibrary.store.FromData := valid.fromData (by simp [oneLibrary, Photo.HasId])
  have found : (oneLibrary.run tagAndRename).1.album "a" = .ok (⟨0⟩, ⟨"B", [⟨0⟩]⟩) := rfl
  obtain ⟨validAfter, unchanged, operations⟩ := objects_stay_valid read tagAndRename rfl
  obtain ⟨-, refused⟩ := operations ⟨.onAlbum "a" (.rename ""), none⟩ (.rename found "")
  obtain ⟨f, failed⟩ := refused.2 (.emptyName found)
  exact ⟨read, validAfter, f, failed, (unchanged _ f failed).1⟩

end PhotoSearch
