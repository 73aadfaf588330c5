import PhotoSearch.Session.Run

/-!
What a step can do to the albums and the libraries of a session: each way in which an action leads to
others is listed once, with what the action had to find for it. A step that fails leads to the same.
-/

namespace PhotoSearch

theorem exceptBind_eq_ok_iff {ε α β : Type} {x : Except ε α} {f : α → Except ε β} {b : β} :
    x >>= f = .ok b ↔ ∃ a, x = .ok a ∧ f a = .ok b := by
  cases x <;> simp [bind, Except.bind]

namespace Session

theorem resolve_eq_ok_iff {α : Type} {s : Session} {select : Binding → Option α} {name : String}
    {a : α} : s.resolve select name = .ok a ↔ ∃ b, s.find? name = some b ∧ select b = some a := by
  rw [← Option.bind_eq_some_iff, resolve]
  split
  · rename_i found
    simp [found]
  · rename_i missing
    simp [missing]

theorem get?_of_album {s : Session} {name : String} {r : Ref StoredAlbum} {a : StoredAlbum}
    (h : s.album name = .ok (r, a)) : r.get? s.store.albums = some a := by
  obtain ⟨b, -, selected⟩ := resolve_eq_ok_iff.1 h
  cases b with
  | album r' =>
    obtain ⟨a', stored, same⟩ := Option.map_eq_some_iff.1 selected
    cases same
    exact stored
  | _ => cases selected

theorem get?_of_library {s : Session} {name : String} {r : Ref StoredLibrary} {l : StoredLibrary}
    (h : s.library name = .ok (r, l)) : r.get? s.store.libraries = some l := by
  obtain ⟨b, -, selected⟩ := resolve_eq_ok_iff.1 h
  cases b with
  | library r' =>
    obtain ⟨l', stored, same⟩ := Option.map_eq_some_iff.1 selected
    cases same
    exact stored
  | _ => cases selected

/-- Tags are held by a tag set of their own or by a photo. -/
theorem tagHolder_cases {s : Session} {name : String} {tags : TagSet} {replace : TagSet → Store}
    (h : s.tagHolder name = .ok (tags, replace)) :
    (∃ r, r.get? s.store.tagSets = some tags ∧ replace = s.store.setTagSet r) ∨
    ∃ r v, r.get? s.store.photos = some v ∧ tags = v.tags ∧ replace = s.store.setPhotoTags r := by
  obtain ⟨b, -, selected⟩ := resolve_eq_ok_iff.1 h
  cases b with
  | tagSet r =>
    obtain ⟨t, stored, same⟩ := Option.map_eq_some_iff.1 selected
    cases same
    exact .inl ⟨r, stored, rfl⟩
  | photo r =>
    obtain ⟨v, stored, same⟩ := Option.map_eq_some_iff.1 selected
    cases same
    exact .inr ⟨r, v, stored, rfl, rfl⟩
  | _ => cases selected

section Found

variable {s : Session}

theorem perform_onTags {holder : String} {tags : TagSet} {replace : TagSet → Store}
    (held : s.tagHolder holder = .ok (tags, replace)) (action : TagAction) :
    s.perform (.onTags holder action) = s.onTags tags replace action := by
  simp only [perform, held, bind, Except.bind]

theorem perform_onAlbum {name : String} {r : Ref StoredAlbum} {a : StoredAlbum}
    (found : s.album name = .ok (r, a)) (action : AlbumAction) :
    s.perform (.onAlbum name action) = s.onAlbum r a action := by
  simp only [perform, found, bind, Except.bind]

theorem perform_onLibrary {lib : String} {r : Ref StoredLibrary} {l : StoredLibrary}
    (found : s.library lib = .ok (r, l)) (action : LibraryAction) :
    s.perform (.onLibrary lib action) = s.onLibrary r l action := by
  simp only [perform, found, bind, Except.bind]

end Found

/-- The albums and the libraries that an action can lead to. Most actions leave both as they are;
the others add an object at the end, or change the one that they speak of. -/
inductive LeadsTo (s : Session) : Action → List StoredAlbum → List StoredLibrary → Prop
  | same (action : Action) : LeadsTo s action s.store.albums s.store.libraries
  | newAlbum (action : Action) (a : StoredAlbum) :
    LeadsTo s action (s.store.albums ++ [a]) s.store.libraries
  | newLibrary (action : Action) (l : StoredLibrary) :
    LeadsTo s action s.store.albums (s.store.libraries ++ [l])
  | newPhotos {name : String} {action : AlbumAction} {r : Ref StoredAlbum} {a : StoredAlbum}
    (found : s.album name = .ok (r, a)) (photos : List (Ref Photo)) :
    LeadsTo s (.onAlbum name action) (r.modify (fun _ => { a with photos }) s.store.albums)
      s.store.libraries
  | newName {name new : String} {r : Ref StoredAlbum} {a : StoredAlbum}
    (found : s.album name = .ok (r, a)) (nonempty : new ≠ "") :
    LeadsTo s (.onAlbum name (.rename new)) (r.modify (fun _ => { a with name := new }) s.store.albums)
      s.store.libraries
  | inserted {lib name : String} {r : Ref StoredLibrary} {l : StoredLibrary} {a : Ref StoredAlbum}
    {album : StoredAlbum} (library : s.library lib = .ok (r, l))
    (found : s.album name = .ok (a, album)) (free : s.albumNamed? l album.name = none) :
    LeadsTo s (.onLibrary lib (.insert name)) s.store.albums
      (r.modify (fun _ => { l with albums := l.albums ++ [a] }) s.store.libraries)

theorem onTags_keeps {s : Session} {tags : TagSet} {replace : TagSet → Store} {action : TagAction}
    {e : Effect} (h : s.onTags tags replace action = .ok e)
    (hr : ∀ t, (replace t).albums = s.store.albums ∧ (replace t).libraries = s.store.libraries) :
    e.store.albums = s.store.albums ∧ e.store.libraries = s.store.libraries := by
  cases action with
  | add key value =>
    simp only [onTags] at h
    split at h
    · cases h
      exact hr _
    · cases h
  | remove key value =>
    simp only [onTags] at h
    split at h
    · cases h
      exact hr _
    · cases h
      exact ⟨rfl, rfl⟩
  | _ =>
    cases h
    exact ⟨rfl, rfl⟩

theorem tagHolder_keeps {s : Session} {name : String} {tags : TagSet} {replace : TagSet → Store}
    (h : s.tagHolder name = .ok (tags, replace)) (t : TagSet) :
    (replace t).albums = s.store.albums ∧ (replace t).libraries = s.store.libraries := by
  rcases tagHolder_cases h with ⟨r, -, rfl⟩ | ⟨r, v, -, -, rfl⟩
  · exact ⟨rfl, rfl⟩
  · exact ⟨rfl, rfl⟩

theorem onAlbum_leadsTo {s : Session} {name : String} {r : Ref StoredAlbum} {a : StoredAlbum}
    (found : s.album name = .ok (r, a)) {action : AlbumAction} {e : Effect}
    (h : s.onAlbum r a action = .ok e) :
    s.LeadsTo (.onAlbum name action) e.store.albums e.store.libraries := by
  cases action with
  | insert photo =>
    obtain ⟨p, -, h⟩ := exceptBind_eq_ok_iff.1 h
    cases h
    exact .newPhotos found _
  | remove choice =>
    obtain ⟨id, -, h⟩ := exceptBind_eq_ok_iff.1 h
    split at h
    · rename_i left removed
      cases h
      simp only [Store.withoutPhoto?] at removed
      split at removed <;> cases removed
      exact .newPhotos found _
    · cases h
      exact .same _
  | rename new =>
    by_cases empty : new = ""
    · simp [onAlbum, albumName, empty] at h
    · simp only [onAlbum, albumName_of_ne empty] at h
      cases h
      exact .newName found empty
  | size =>
    cases h
    exact .same _
  | firstTime | lastTime =>
    simp only [onAlbum, answerTime] at h
    split at h <;> cases h
    exact .same _

theorem makeAlbum_albums {s : Session} {name : Data} {items : List Binding} {e : Effect}
    (h : s.makeAlbum name items = .ok e) :
    ∃ a, e.store.albums = s.store.albums ++ [a] ∧ e.store.libraries = s.store.libraries := by
  obtain ⟨a, -, h⟩ := exceptBind_eq_ok_iff.1 h
  cases h
  exact ⟨a, rfl, rfl⟩

theorem onLibrary_leadsTo {s : Session} {lib : String} {r : Ref StoredLibrary} {l : StoredLibrary}
    (found : s.library lib = .ok (r, l)) {action : LibraryAction} {e : Effect}
    (h : s.onLibrary r l action = .ok e) :
    s.LeadsTo (.onLibrary lib action) e.store.albums e.store.libraries := by
  cases action with
  | insert name =>
    obtain ⟨⟨a, album⟩, named, h⟩ := exceptBind_eq_ok_iff.1 h
    simp only at h
    split at h
    · cases h
    · rename_i free
      cases h
      exact .inserted found named (by simpa using free)
  | albumFor source base =>
    obtain ⟨items, -, h⟩ := exceptBind_eq_ok_iff.1 h
    obtain ⟨a, albums, libraries⟩ := makeAlbum_albums h
    rw [albums, libraries]
    exact .newAlbum _ a
  | find name | photos | freeName base =>
    cases h
    exact .same _

theorem perform_leadsTo {s : Session} {action : Action} {e : Effect} (h : s.perform action = .ok e) :
    s.LeadsTo action e.store.albums e.store.libraries := by
  cases action with
  | makePhoto data | makeTagSet data =>
    obtain ⟨_, -, h⟩ := exceptBind_eq_ok_iff.1 h
    cases h
    exact .same _
  | makeAlbum name photos =>
    obtain ⟨items, -, h⟩ := exceptBind_eq_ok_iff.1 h
    obtain ⟨a, albums, libraries⟩ := makeAlbum_albums h
    rw [albums, libraries]
    exact .newAlbum _ a
  | makeLibrary owner albums =>
    obtain ⟨items, -, h⟩ := exceptBind_eq_ok_iff.1 h
    obtain ⟨l, -, h⟩ := exceptBind_eq_ok_iff.1 h
    cases h
    exact .newLibrary _ l
  | makeMode strict | assign assignments =>
    cases h
    exact .same _
  | onTags holder action =>
    obtain ⟨⟨tags, replace⟩, held, h⟩ := exceptBind_eq_ok_iff.1 h
    obtain ⟨albums, libraries⟩ := onTags_keeps h (tagHolder_keeps held)
    rw [albums, libraries]
    exact .same _
  | onAlbum name action =>
    obtain ⟨⟨r, a⟩, found, h⟩ := exceptBind_eq_ok_iff.1 h
    exact onAlbum_leadsTo found h
  | onLibrary name action =>
    obtain ⟨⟨r, l⟩, found, h⟩ := exceptBind_eq_ok_iff.1 h
    exact onLibrary_leadsTo found h
  | search raw source mode =>
    obtain ⟨m, -, h⟩ := exceptBind_eq_ok_iff.1 h
    obtain ⟨items, -, h⟩ := exceptBind_eq_ok_iff.1 h
    obtain ⟨o, -, h⟩ := exceptBind_eq_ok_iff.1 h
    cases h
    exact .same _
  | raise name =>
    obtain ⟨o, -, h⟩ := exceptBind_eq_ok_iff.1 h
    split at h <;> cases h
    exact .same _
  | dump name =>
    obtain ⟨b, -, h⟩ := exceptBind_eq_ok_iff.1 h
    cases h
    exact .same _

theorem step_leadsTo (s : Session) (st : Step) :
    s.LeadsTo st.action (s.step st).1.store.albums (s.step st).1.store.libraries := by
  simp only [step]
  split
  · rename_i e performed
    exact perform_leadsTo performed
  · exact .same _

/-! ### Runs -/

theorem run_cons (s : Session) (st : Step) (rest : List Step) :
    (s.run (st :: rest)).1 = ((s.step st).1.run rest).1 := rfl

theorem run_append (s : Session) (steps more : List Step) :
    (s.run (steps ++ more)).1 = ((s.run steps).1.run more).1 := by
  induction steps generalizing s with
  | nil => rfl
  | cons st rest ih => rw [List.cons_append, run_cons, ih, run_cons]

/-- One more step at the end of a run. -/
theorem run_concat (s : Session) (steps : List Step) (st : Step) :
    (s.run (steps ++ [st])).1 = ((s.run steps).1.step st).1 := run_append s steps [st]

end Session

end PhotoSearch
