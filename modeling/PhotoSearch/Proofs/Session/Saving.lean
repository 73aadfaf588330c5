import PhotoSearch.Proofs.Search.Saving
import PhotoSearch.Proofs.Session.Values

/-!
Keeping what is found, step by step in a session. Each search of a library, the album made of its
outcome and the adding of that album are steps of their own, which work on references. Whatever the
steps before, the library stands for the value that is made by saving values.
-/

namespace PhotoSearch

/-- The names by which a session keeps results: of the library, of a way to read typed days in each
mode, and those that outcomes and new albums are bound to, which are none of the others. -/
structure SavingNames where
  library : String
  engine : DateMode → Option String
  found : String
  made : String
  found_ne_library : found ≠ library
  found_ne_engine : ∀ m, engine m ≠ some found
  made_ne_library : made ≠ library
  made_ne_engine : ∀ m, engine m ≠ some made

namespace SavingNames

def search (n : SavingNames) (v : Saving) : Step :=
  ⟨.search (.str v.text) (.library n.library) (n.engine v.mode), some n.found⟩

/-- Making an album of what was found. -/
def make (n : SavingNames) (v : Saving) : Step :=
  ⟨.onLibrary n.library (.albumFor (.outcome n.found) (.ofOptionalString v.base)), some n.made⟩

/-- Adding the album that was made. -/
def add (n : SavingNames) : Step := ⟨.onLibrary n.library (.insert n.made), none⟩

end SavingNames

namespace Session

variable {s s' : Session} {n : SavingNames} {settings : Settings} {l : Library}

/-- A search and, unless its outcome is an error, the two steps that keep what is found. -/
def saveSteps (s : Session) (n : SavingNames) (v : Saving) : List Step :=
  n.search v :: match (s.step (n.search v)).1.outcome n.found with
    | .ok o => if o.error.isSome then [] else [n.make v, n.add]
    | .error _ => []

def saveAllSteps (s : Session) (n : SavingNames) : List Saving → List Step
  | [] => []
  | v :: rest => s.saveSteps n v ++ saveAllSteps (s.run (s.saveSteps n v)).1 n rest

/-- The library of the session stands for `l`. It refers to albums that are there, and the names of
both modes are bound to them. -/
structure Keeps (s : Session) (n : SavingNames) (settings : Settings) (l : Library) : Prop where
  library : ∃ r stored, s.library n.library = .ok (r, stored) ∧
    (∀ a ∈ stored.albums, (a.get? s.store.albums).isSome) ∧ s.store.libraryOf stored = l
  modes : ∀ m, s.mode (n.engine m) = .ok m
  settings : s.settings = settings

/-! ### Names -/

theorem find?_bindName {names : List (String × Binding)} {name other : String} (b : Binding)
    (h : other ≠ name) : (bindName names (some name) (some b)).find? (fun c => c.1 == other) =
      names.find? fun c => c.1 == other := by
  have kept : (fun c : String × Binding => decide (((c.1 != name) = true) ∧ (c.1 == other) = true)) =
      fun c => c.1 == other := by
    funext c
    by_cases same : c.1 = other
    · simp [same, h]
    · simp [same]
  simp only [bindName, List.find?_cons, beq_eq_false_iff_ne.2 h.symm, List.find?_filter, kept]

theorem find?_of_library {name : String} {r : Ref StoredLibrary} {stored : StoredLibrary}
    (h : s.library name = .ok (r, stored)) : s.find? name = some (.library r) := by
  obtain ⟨b, bound, selected⟩ := resolve_eq_ok_iff.1 h
  cases b with
  | library r' =>
    obtain ⟨_, -, same⟩ := Option.map_eq_some_iff.1 selected
    cases same
    exact bound
  | _ => cases selected

theorem library_of_find? {name : String} {r : Ref StoredLibrary} {stored : StoredLibrary}
    (bound : s.find? name = some (.library r)) (found : r.get? s.store.libraries = some stored) :
    s.library name = .ok (r, stored) :=
  resolve_eq_ok_iff.2 ⟨_, bound, by simp [found]⟩

/-! ### What single steps keep -/

theorem step_of_perform {st : Step} {e : Effect} (h : s.perform st.action = .ok e) : s.step st =
    (⟨e.store, bindName s.names st.saveAs e.made, e.settings, s.clock + 1⟩, e.reply) := by
  rw [step, h]

/-- The way to read typed days is that of the settings, or that of a name. -/
theorem mode_congr {engine : Option String} (settings : s'.settings = s.settings)
    (names : ∀ name ∈ engine, s'.find? name = s.find? name) : s'.mode engine = s.mode engine := by
  cases engine with
  | none => simp only [mode, settings]
  | some name => simp only [mode, resolve, names name rfl]

theorem Keeps.modes_of_find? (h : s.Keeps n settings l) (same : s'.settings = s.settings)
    (names : ∀ name, name ≠ n.found → name ≠ n.made → s'.find? name = s.find? name) (m : DateMode) :
    s'.mode (n.engine m) = .ok m := by
  rw [← h.modes m]
  refine mode_congr same fun name hm => names name ?_ ?_
  · rintro rfl
    exact n.found_ne_engine m hm
  · rintro rfl
    exact n.made_ne_engine m hm

/-- Objects that are added and names that are bound to them do not change what the library stands
for. -/
theorem Keeps.of_more (h : s.Keeps n settings l) (same : s'.settings = s.settings)
    (names : ∀ name, name ≠ n.found → name ≠ n.made → s'.find? name = s.find? name)
    (photos : s'.store.photos = s.store.photos) (libraries : s'.store.libraries = s.store.libraries)
    {more : List StoredAlbum} (albums : s'.store.albums = s.store.albums ++ more) :
    s'.Keeps n settings l := by
  obtain ⟨r, stored, found, there, value⟩ := h.library
  have kept : ∀ a ∈ stored.albums, a.get? s'.store.albums = a.get? s.store.albums := by
    intro a ha
    rw [albums, Ref.get?_append (there a ha)]
  have albumOf : s'.store.albumOf = s.store.albumOf := by
    funext a
    simp only [Store.albumOf, Store.photosOf, photos]
  refine ⟨⟨r, stored, library_of_find? ?_ ?_, fun a ha => ?_, ?_⟩, h.modes_of_find? same names,
    same.trans h.settings⟩
  · rw [names _ n.found_ne_library.symm n.made_ne_library.symm]
    exact find?_of_library found
  · rw [libraries]
    exact get?_of_library found
  · rw [kept a ha]
    exact there a ha
  · rw [← value, Store.libraryOf, Store.libraryOf, Store.storedAlbums, Store.storedAlbums, albumOf,
      List.filterMap_congr kept]

/-- A search among photos looks at each of them. -/
theorem searchAmong_map_photo (s : Session) (mode : DateMode) (raw : Data) (refs : List (Ref Photo)) :
    s.searchAmong mode raw (refs.map .photo) =
      (searchStored s.store mode raw refs).mapError .overflow := by
  have none : (refs.map Binding.photo).find? (fun b => b.photo?.isNone) = none := by
    simp [Binding.photo?]
  have all : (refs.map Binding.photo).filterMap Binding.photo? = refs := by
    simp [List.filterMap_map, Function.comp_def, Binding.photo?]
  simp only [searchAmong, none, all]

/-- The session after a search has bound an outcome that stands for that of searching the value of the
library. -/
theorem Keeps.step_search (h : s.Keeps n settings l) (v : Saving) :
    ∃ o, (s.step (n.search v)).1.outcome n.found = .ok o ∧
      PhotoSearch.search v.mode (.str v.text) l.photos =
        .ok ((s.step (n.search v)).1.store.outcomeOf o) ∧
      (s.step (n.search v)).1.Keeps n settings l ∧ ∃ d, (s.step (n.search v)).2 = .ok d := by
  obtain ⟨r, stored, found, -, value⟩ := h.library
  obtain ⟨outcome, searched⟩ := exists_search_text v.mode v.text l.photos
  have ofValue := outcomeOf_searchStored s.store v.mode (.str v.text) (s.store.libraryPhotos stored)
  rw [Store.photosOf_libraryPhotos, value, searched, map_eq_ok_iff] at ofValue
  obtain ⟨o, searchedStored, rfl⟩ := ofValue
  have performed : s.perform (n.search v).action =
      .ok (s.make (s.store.putOutcome o).1 (.outcome (Ref.next s.store.outcomes))) := by
    simp only [SavingNames.search, perform, h.modes, source, found, searchAmong_map_photo,
      searchedStored, Except.map, Except.mapError, bind, Except.bind]
    rfl
  rw [step_of_perform performed]
  refine ⟨o, ?_, searched, ?_, _, rfl⟩
  · refine resolve_eq_ok_iff.2 ⟨.outcome (Ref.next s.store.outcomes), ?_, Ref.get?_next _ o⟩
    simp [find?, bindName, make, SavingNames.search]
  · refine h.of_more rfl (fun name other _ => ?_) rfl rfl (List.append_nil s.store.albums).symm
    exact congrArg (Option.map Prod.snd) (find?_bindName _ other)

/-- The album that is made stands for the one made of the value of the library. -/
theorem Keeps.step_make (h : s.Keeps n settings l) {v : Saving} {o : StoredOutcome}
    (found : s.outcome n.found = .ok o) :
    ∃ a album, (s.step (n.make v)).1.album n.made = .ok (a, album) ∧
      l.albumFor settings.resultsName (s.store.photosOf o.photos) v.base =
        .ok ((s.step (n.make v)).1.store.albumOf album) ∧
      (s.step (n.make v)).1.Keeps n settings l ∧ ∃ d, (s.step (n.make v)).2 = .ok d := by
  obtain ⟨r, stored, library, -, rfl⟩ := h.library
  obtain ⟨album, made, ofValue⟩ := exists_makeAlbum_nameFrom settings.resultsName_ne_empty s stored
    v.base o.photos
  have performed : s.perform (n.make v).action =
      .ok (s.make (s.store.putAlbum album).1 (.album (Ref.next s.store.albums))) := by
    rw [SavingNames.make, perform_onLibrary library]
    simp only [onLibrary, source, found, Except.map, bind, Except.bind, h.settings, made]
  rw [step_of_perform performed]
  refine ⟨Ref.next s.store.albums, album, ?_, ofValue, ?_, _, rfl⟩
  · refine resolve_eq_ok_iff.2 ⟨.album (Ref.next s.store.albums), ?_, ?_⟩
    · simp [find?, bindName, make, SavingNames.make]
    · simp [make, Store.putAlbum]
  · refine h.of_more rfl (fun name _ other => ?_) rfl rfl rfl
    exact congrArg (Option.map Prod.snd) (find?_bindName _ other)

theorem eq_make_of_onLibrary_insert {r : Ref StoredLibrary} {stored : StoredLibrary} {name : String}
    {a : Ref StoredAlbum} {album : StoredAlbum} {e : Effect} (found : s.album name = .ok (a, album))
    (h : s.onLibrary r stored (.insert name) = .ok e) :
    e = s.make (s.store.setLibrary r { stored with albums := stored.albums ++ [a] }) (.album a) := by
  simp only [onLibrary, found, bind, Except.bind] at h
  split at h
  · cases h
  · cases h
    rfl

/-- Adding an album adds its value to that of the library, if the name is free. -/
theorem Keeps.step_add (h : s.Keeps n settings l) {a : Ref StoredAlbum} {album : StoredAlbum}
    {l' : Library} (found : s.album n.made = .ok (a, album))
    (added : l.add (s.store.albumOf album) = .ok l') :
    (s.step n.add).1.Keeps n settings l' ∧ ∃ d, (s.step n.add).2 = .ok d := by
  obtain ⟨r, stored, library, there, rfl⟩ := h.library
  have ofValue := onLibrary_insert (get?_of_library library) found
  rw [added, Except.mapError, Except.map, map_eq_ok_iff] at ofValue
  obtain ⟨e, inserted, value⟩ := ofValue
  have performed : s.perform n.add.action = .ok e := (perform_onLibrary library _).trans inserted
  obtain rfl := eq_make_of_onLibrary_insert found inserted
  have longer : r.get? (s.store.setLibrary r
      { stored with albums := stored.albums ++ [a] }).libraries =
      some { stored with albums := stored.albums ++ [a] } := by
    rw [Store.setLibrary, Ref.get?_modify_self, get?_of_library library, Option.map_some]
  have bound : s.find? n.library = some (.library r) := find?_of_library library
  rw [step_of_perform performed]
  refine ⟨⟨⟨r, _, library_of_find? bound longer, ?_, ?_⟩, h.modes, h.settings⟩, _, rfl⟩
  · refine List.forall_mem_append.2 ⟨there, List.forall_mem_singleton.2 ?_⟩
    have stays : a.get? s.store.albums = some album := get?_of_album found
    exact Option.isSome_of_eq_some stays
  · simpa [make, longer] using value.symm

/-! ### Runs -/

theorem replies_run_append (s : Session) (steps more : List Step) :
    (s.run (steps ++ more)).2 = (s.run steps).2 ++ ((s.run steps).1.run more).2 := by
  induction steps generalizing s with
  | nil => rfl
  | cons st rest ih =>
    show (s.step st).2 :: ((s.step st).1.run (rest ++ more)).2 = _
    rw [ih]
    rfl

/-- Saving once in a session saves the value of the library. -/
theorem Keeps.run_saveSteps (h : s.Keeps n settings l) (v : Saving) :
    ∃ l', l.save settings.resultsName v = .ok l' ∧ l.Continues l' ∧
      (s.run (s.saveSteps n v)).1.Keeps n settings l' ∧
      ∀ reply ∈ (s.run (s.saveSteps n v)).2, ∃ d, reply = .ok d := by
  obtain ⟨o, found, searched, keeps, answered⟩ := h.step_search v
  obtain ⟨l', saved, saves, continues, -⟩ := Library.exists_save settings.resultsName_ne_empty l v
  refine ⟨l', saves, continues, ?_⟩
  rw [Library.save_of_search searched] at saves
  simp only [saveSteps, found]
  by_cases failed : o.error.isSome
  · rw [if_pos (show ((s.step (n.search v)).1.store.outcomeOf o).error.isSome from failed)] at saves
    cases saves
    rw [if_pos failed]
    exact ⟨keeps, List.forall_mem_singleton.2 answered⟩
  · rw [if_neg (show ¬ ((s.step (n.search v)).1.store.outcomeOf o).error.isSome from failed)] at saves
    obtain ⟨a, album, made, ofValue, keeps', answered'⟩ := keeps.step_make (v := v) found
    have photos : ((s.step (n.search v)).1.store.outcomeOf o).photos =
        (s.step (n.search v)).1.store.photosOf o.photos := rfl
    rw [photos, ofValue] at saves
    obtain ⟨keeps'', answered''⟩ := keeps'.step_add made (mapError_eq_ok_iff.1 saves)
    rw [if_neg failed]
    refine ⟨keeps'', ?_⟩
    simp only [run, List.forall_mem_cons]
    exact ⟨answered, answered', answered'', fun _ member => nomatch member⟩

/-- Saving in a session, however often, saves the value of the library each time. All steps succeed,
and the library stands for what saving its value at first leads to: no search finds anything else in
it, and its first albums are those that were there. -/
theorem Keeps.run_saveAllSteps (h : s.Keeps n settings l) (savings : List Saving) :
    ∃ l', l.saveAll settings.resultsName savings = .ok l' ∧ l.Continues l' ∧
      (s.run (s.saveAllSteps n savings)).1.Keeps n settings l' ∧
      ∀ reply ∈ (s.run (s.saveAllSteps n savings)).2, ∃ d, reply = .ok d := by
  induction savings generalizing s l with
  | nil => exact ⟨l, rfl, .refl l, h, fun _ member => nomatch member⟩
  | cons v rest ih =>
    obtain ⟨m, saves, continues, keeps, answered⟩ := h.run_saveSteps v
    obtain ⟨l', savesAll, continuesAll, keepsAll, answeredAll⟩ := ih keeps
    refine ⟨l', ?_, continues.trans continuesAll, ?_, ?_⟩
    · rw [Library.saveAll, saves]
      exact savesAll
    · rw [saveAllSteps, run_append]
      exact keepsAll
    · rw [saveAllSteps, replies_run_append]
      exact List.forall_mem_append.2 ⟨answered, answeredAll⟩

/-- A session can come to keep results in a new library. -/
example :
    let engine : DateMode → Option String
      | .strict => some "strict"
      | .lenient => some "lenient"
    let names : SavingNames := ⟨"library", engine, "found", "made", by decide,
      fun m => by cases m <;> decide, by decide, fun m => by cases m <;> decide⟩
    let steps : List Step := [⟨.makeMode (.bool true), some "strict"⟩,
      ⟨.makeMode (.bool false), some "lenient"⟩, ⟨.makeLibrary (.str "me") [], some "library"⟩]
    ((start .empty).run steps).1.Keeps names .empty ⟨"me", []⟩ :=
  ⟨⟨⟨0⟩, ⟨"me", []⟩, rfl, by simp, rfl⟩, fun m => by cases m <;> rfl, rfl⟩

end Session

end PhotoSearch
