import Mathlib
import PhotoSearch.Proofs.Session.Step

/-!
The names of the albums of one library, over any run of a session. Adding albums keeps them apart;
renaming looks at one album alone and can make two of them coincide. When exactly the names differ is
the main statement.
-/

namespace PhotoSearch

namespace Ref

variable {α : Type}

theorem get?_append {r : Ref α} {table : List α} (h : (r.get? table).isSome) (more : List α) :
    r.get? (table ++ more) = r.get? table := by
  have inside : r.index < table.length := by simpa [get?] using h
  simp only [get?, List.getElem?_append_left inside]

theorem get?_modify_self (r : Ref α) (f : α → α) (table : List α) :
    r.get? (r.modify f table) = (r.get? table).map f := by
  simp [get?, modify]

theorem get?_modify_of_ne {r r' : Ref α} (h : r ≠ r') (f : α → α) (table : List α) :
    r'.get? (r.modify f table) = r'.get? table := by
  have other : r.index ≠ r'.index := by
    intro same
    cases r; cases r'
    exact h (congrArg Ref.mk same)
  simp [get?, modify, other]

end Ref

namespace Store

/-! ### Names by reference -/

def nameOf? (s : Store) (a : Ref StoredAlbum) : Option String :=
  (a.get? s.albums).map StoredAlbum.name

/-- The library is there; it holds no album twice, and what it holds is there. -/
structure Holds (s : Store) (r : Ref StoredLibrary) (l : StoredLibrary) : Prop where
  found : r.get? s.libraries = some l
  nodup : l.albums.Nodup
  stored : ∀ a ∈ l.albums, (s.nameOf? a).isSome

/-- No two albums that the library holds have one name. -/
def TellsApart (s : Store) (l : StoredLibrary) : Prop :=
  ∀ a ∈ l.albums, ∀ b ∈ l.albums, s.nameOf? a = s.nameOf? b → a = b

variable {s s' : Store} {r : Ref StoredLibrary} {l : StoredLibrary}

theorem map_name_libraryOf (s : Store) (l : StoredLibrary) :
    (s.libraryOf l).albums.map Album.name = l.albums.filterMap s.nameOf? := by
  have named : ∀ a : Ref StoredAlbum,
      ((a.get? s.albums).map s.albumOf).map Album.name = s.nameOf? a := by
    intro a
    rw [Option.map_map]
    rfl
  simp only [libraryOf, storedAlbums, List.map_filterMap, named]

theorem Holds.nodup_names_iff (h : s.Holds r l) :
    ((s.libraryOf l).albums.map Album.name).Nodup ↔ s.TellsApart l := by
  have all : (l.albums.filterMap s.nameOf?).map some = l.albums.map s.nameOf? := by
    rw [List.map_filterMap]
    have present : ∀ a ∈ l.albums, (s.nameOf? a).map some = some (s.nameOf? a) := by
      intro a ha
      obtain ⟨name, named⟩ := Option.isSome_iff_exists.1 (h.stored a ha)
      rw [named, Option.map_some]
    rw [List.filterMap_congr present, List.filterMap_eq_map']
  rw [map_name_libraryOf, ← List.nodup_map_iff (Option.some_injective String), all,
    List.nodup_map_iff_inj_on h.nodup]
  rfl

theorem nameOf?_of_albums_eq (h : s'.albums = s.albums) (a : Ref StoredAlbum) :
    s'.nameOf? a = s.nameOf? a := by
  rw [nameOf?, h, nameOf?]

section ChangedAlbum

variable {a : Ref StoredAlbum} {album new : StoredAlbum}

/-- Where an album is replaced, its reference has the name of the new one. -/
theorem nameOf?_of_modify (h : s'.albums = a.modify (fun _ => new) s.albums)
    (stored : a.get? s.albums = some album) : s'.nameOf? a = some new.name := by
  rw [nameOf?, h, Ref.get?_modify_self, stored]
  rfl

theorem nameOf?_of_modify_of_ne (h : s'.albums = a.modify (fun _ => new) s.albums)
    {b : Ref StoredAlbum} (different : a ≠ b) : s'.nameOf? b = s.nameOf? b := by
  rw [nameOf?, h, Ref.get?_modify_of_ne different, nameOf?]

end ChangedAlbum

/-- A change elsewhere. -/
theorem Holds.frame (h : s.Holds r l) (found : r.get? s'.libraries = some l)
    (names : ∀ a ∈ l.albums, s'.nameOf? a = s.nameOf? a) :
    s'.Holds r l ∧ (s.TellsApart l → s'.TellsApart l) := by
  refine ⟨⟨found, h.nodup, ?_⟩, ?_⟩
  · intro a ha
    rw [names a ha]
    exact h.stored a ha
  · intro apart a ha b hb same
    rw [names a ha, names b hb] at same
    exact apart a ha b hb same

/-- After renaming one album the names differ only if no other one has the new name. -/
theorem Holds.rename (h : s.Holds r l) (found : r.get? s'.libraries = some l)
    {a : Ref StoredAlbum} {new : String} (renamed : s'.nameOf? a = some new)
    (others : ∀ b, a ≠ b → s'.nameOf? b = s.nameOf? b) :
    s'.Holds r l ∧ (s.TellsApart l → (s'.TellsApart l ↔
      (a ∈ l.albums → ∀ b ∈ l.albums, s.nameOf? b = some new → b = a))) := by
  refine ⟨⟨found, h.nodup, ?_⟩, fun apart => ⟨?_, ?_⟩⟩
  · intro b held
    by_cases same : a = b
    · rw [← same, renamed]
      rfl
    · rw [others b same]
      exact h.stored b held
  · intro apart' ha b hb named
    refine Classical.byContradiction fun different => different (apart' b hb a ha ?_)
    rw [renamed, others b fun same => different same.symm, named]
  · intro unique b hb c hc same
    by_cases isB : a = b
    · by_cases isC : a = c
      · exact isB.symm.trans isC
      · rw [← isB, renamed, others c isC] at same
        exact isB.symm.trans (unique (isB ▸ hb) c hc same.symm).symm
    · by_cases isC : a = c
      · rw [← isC, renamed, others b isB] at same
        exact (unique (isC ▸ hc) b hb same).trans isC
      · rw [others b isB, others c isC] at same
        exact apart b hb c hc same

/-- An album whose name is free is not held yet, and its name goes with those of the others. -/
theorem Holds.insert (h : s.Holds r l) {a : Ref StoredAlbum} {name : String}
    (found : r.get? s'.libraries = some { l with albums := l.albums ++ [a] })
    (names : ∀ b, s'.nameOf? b = s.nameOf? b) (named : s.nameOf? a = some name)
    (free : ∀ b ∈ l.albums, s.nameOf? b ≠ some name) :
    s'.Holds r { l with albums := l.albums ++ [a] } ∧
      (s.TellsApart l → s'.TellsApart { l with albums := l.albums ++ [a] }) := by
  have absent : a ∉ l.albums := fun held => free a held named
  refine ⟨⟨found, ?_, ?_⟩, ?_⟩
  · exact List.nodup_append.2 ⟨h.nodup, List.nodup_singleton a, fun b hb c hc same =>
      absent (List.mem_singleton.1 hc ▸ same ▸ hb)⟩
  · intro b hb
    rw [names]
    rcases List.mem_append.1 hb with hb | hb
    · exact h.stored b hb
    · rw [List.mem_singleton.1 hb, named]
      rfl
  · intro apart b hb c hc same
    rw [names, names] at same
    rcases List.mem_append.1 hb with hb | hb
    · rcases List.mem_append.1 hc with hc | hc
      · exact apart b hb c hc same
      · rw [List.mem_singleton.1 hc, named] at same
        exact absurd same (free b hb)
    · rcases List.mem_append.1 hc with hc | hc
      · rw [List.mem_singleton.1 hb, named] at same
        exact absurd same.symm (free c hc)
      · rw [List.mem_singleton.1 hb, List.mem_singleton.1 hc]

end Store

namespace Session

theorem albumNamed?_eq (s : Session) (l : StoredLibrary) (name : String) :
    s.albumNamed? l name = l.albums.find? fun a => s.store.nameOf? a == some name := rfl

theorem albumNamed?_eq_none_iff (s : Session) (l : StoredLibrary) (name : String) :
    s.albumNamed? l name = none ↔ ∀ a ∈ l.albums, s.store.nameOf? a ≠ some name := by
  simp [albumNamed?_eq]

/-- The library is there, and the names of the albums that it holds differ from each other. -/
def NamesDiffer (s : Session) (r : Ref StoredLibrary) : Prop :=
  ∃ l, r.get? s.store.libraries = some l ∧
    ((s.store.libraryOf l).albums.map Album.name).Nodup

/-- The library is there, and each album that it holds is the one that is found by its name. -/
def FindsEach (s : Session) (r : Ref StoredLibrary) : Prop :=
  ∃ l, r.get? s.store.libraries = some l ∧ ∀ a ∈ l.albums, ∃ album,
    a.get? s.store.albums = some album ∧ s.albumNamed? l album.name = some a

/-- The action gives an album that the library holds the name of another one that it holds. -/
inductive Clashes (s : Session) (r : Ref StoredLibrary) : Action → Prop
  | rename {name : String} {l : StoredLibrary} {a b : Ref StoredAlbum} {album other : StoredAlbum}
    (found : r.get? s.store.libraries = some l) (held : a ∈ l.albums) (held' : b ∈ l.albums)
    (different : b ≠ a) (renamed : s.album name = .ok (a, album))
    (stored : b.get? s.store.albums = some other) (nonempty : other.name ≠ "") :
    Clashes s r (.onAlbum name (.rename other.name))

variable {s : Session} {r : Ref StoredLibrary} {l : StoredLibrary}

theorem namesDiffer_iff (h : s.store.Holds r l) : s.NamesDiffer r ↔ s.store.TellsApart l := by
  rw [← h.nodup_names_iff]
  constructor
  · rintro ⟨l', found, nodup⟩
    cases h.found.symm.trans found
    exact nodup
  · exact fun nodup => ⟨l, h.found, nodup⟩

/-- Names that differ are what a look-up by name needs, and no less. -/
theorem findsEach_iff (h : s.store.Holds r l) : s.FindsEach r ↔ s.store.TellsApart l := by
  constructor
  · rintro ⟨l', found, finds⟩ a ha b hb same
    cases h.found.symm.trans found
    obtain ⟨album, stored, first⟩ := finds a ha
    obtain ⟨album', stored', first'⟩ := finds b hb
    have name : album.name = album'.name := by
      simpa [Store.nameOf?, stored, stored'] using same
    rw [name, first'] at first
    exact (Option.some.inj first).symm
  · intro apart
    refine ⟨l, h.found, fun a ha => ?_⟩
    obtain ⟨name, named⟩ := Option.isSome_iff_exists.1 (h.stored a ha)
    obtain ⟨album, stored, rfl⟩ := Option.map_eq_some_iff.1 named
    refine ⟨album, stored, ?_⟩
    cases looked : s.albumNamed? l album.name with
    | none =>
      rw [albumNamed?_eq_none_iff] at looked
      exact absurd named (looked a ha)
    | some b =>
      rw [albumNamed?_eq] at looked
      have hb : b ∈ l.albums := List.mem_of_find?_eq_some looked
      have same : s.store.nameOf? b = some album.name := by
        simpa using List.find?_some looked
      rw [apart b hb a ha (same.trans named.symm)]

/-! ### One step -/

section OneStep

variable {next : Store} {a : Ref StoredAlbum} {album : StoredAlbum} {name : String}

/-- Renaming an album keeps names apart unless it is a clash. -/
theorem holds_of_newName (h : s.store.Holds r l) {new : String}
    (albums : next.albums = a.modify (fun _ => { album with name := new }) s.store.albums)
    (libraries : next.libraries = s.store.libraries) (found : s.album name = .ok (a, album))
    (nonempty : new ≠ "") :
    next.Holds r l ∧ (¬ s.Clashes r (.onAlbum name (.rename new)) → s.store.TellsApart l →
      next.TellsApart l) := by
  have renamed := h.rename (by rw [libraries, h.found])
    (Store.nameOf?_of_modify albums (get?_of_album found))
    fun b different => Store.nameOf?_of_modify_of_ne albums different
  refine ⟨renamed.1, fun noClash apart => (renamed.2 apart).2 fun held b held' named => ?_⟩
  refine Classical.byContradiction fun different => noClash ?_
  obtain ⟨other, stored, rfl⟩ := Option.map_eq_some_iff.1 named
  exact .rename h.found held held' different found stored nonempty

/-- Adding an album to a library that has no other of its name keeps names apart, in this library
and in any other. -/
theorem holds_of_inserted (h : s.store.Holds r l) {r' : Ref StoredLibrary} {l' : StoredLibrary}
    (albums : next.albums = s.store.albums)
    (libraries : next.libraries =
      r'.modify (fun _ => { l' with albums := l'.albums ++ [a] }) s.store.libraries)
    (library : r'.get? s.store.libraries = some l') (found : s.album name = .ok (a, album))
    (free : s.albumNamed? l' album.name = none) :
    ∃ m, next.Holds r m ∧ (s.store.TellsApart l → next.TellsApart m) := by
  have names : ∀ b, next.nameOf? b = s.store.nameOf? b := Store.nameOf?_of_albums_eq albums
  by_cases other : r' = r
  · subst other
    cases h.found.symm.trans library
    have named : s.store.nameOf? a = some album.name := by
      rw [Store.nameOf?, get?_of_album found]
      rfl
    have held : r'.get? next.libraries = some { l with albums := l.albums ++ [a] } := by
      rw [libraries, Ref.get?_modify_self, library]
      rfl
    exact ⟨_, h.insert held names named ((albumNamed?_eq_none_iff s l album.name).1 free)⟩
  · have kept : r.get? next.libraries = some l := by
      rw [libraries, Ref.get?_modify_of_ne other, h.found]
    exact ⟨l, h.frame kept fun b _ => names b⟩

end OneStep

/-- Whatever a step leads to, the library goes on to hold each of its albums once; and unless the
step is a clash, names that differ go on to differ. -/
theorem LeadsTo.holds (h : s.store.Holds r l) {action : Action} {albums : List StoredAlbum}
    {libraries : List StoredLibrary} (leads : s.LeadsTo action albums libraries) {next : Store}
    (ha : next.albums = albums) (hl : next.libraries = libraries) :
    ∃ l', next.Holds r l' ∧ (¬ s.Clashes r action → s.store.TellsApart l → next.TellsApart l') := by
  cases leads with
  | same =>
    have kept := h.frame (by rw [hl, h.found]) fun a _ => Store.nameOf?_of_albums_eq ha a
    exact ⟨l, kept.1, fun _ => kept.2⟩
  | newAlbum _ new =>
    have names : ∀ a ∈ l.albums, next.nameOf? a = s.store.nameOf? a := by
      intro a held
      have stored : (a.get? s.store.albums).isSome := by
        simpa [Store.nameOf?] using h.stored a held
      rw [Store.nameOf?, ha, Ref.get?_append stored, Store.nameOf?]
    have kept := h.frame (by rw [hl, h.found]) names
    exact ⟨l, kept.1, fun _ => kept.2⟩
  | newLibrary _ new =>
    have found : r.get? next.libraries = some l := by
      rw [hl, Ref.get?_append (by rw [h.found]; rfl), h.found]
    have kept := h.frame found fun a _ => Store.nameOf?_of_albums_eq ha a
    exact ⟨l, kept.1, fun _ => kept.2⟩
  | @newPhotos _ _ a album found photos =>
    have stored := get?_of_album found
    have names : ∀ b ∈ l.albums, next.nameOf? b = s.store.nameOf? b := by
      intro b _
      by_cases same : a = b
      · subst same
        rw [Store.nameOf?_of_modify ha stored, Store.nameOf?, stored]
        rfl
      · exact Store.nameOf?_of_modify_of_ne ha same
    have kept := h.frame (by rw [hl, h.found]) names
    exact ⟨l, kept.1, fun _ => kept.2⟩
  | newName found nonempty => exact ⟨l, holds_of_newName h ha hl found nonempty⟩
  | inserted library found free =>
    obtain ⟨m, holds, keeps⟩ := holds_of_inserted h ha hl (get?_of_library library) found free
    exact ⟨m, holds, fun _ => keeps⟩

theorem exists_holds_step (h : s.store.Holds r l) (st : Step) :
    ∃ l', (s.step st).1.store.Holds r l' := by
  obtain ⟨l', holds, -⟩ := (s.step_leadsTo st).holds h rfl rfl
  exact ⟨l', holds⟩

theorem store_step_rename {name new : String} {a : Ref StoredAlbum} {album : StoredAlbum}
    (found : s.album name = .ok (a, album)) (nonempty : new ≠ "") (saveAs : Option String) :
    (s.step ⟨.onAlbum name (.rename new), saveAs⟩).1.store =
      s.store.setAlbum a { album with name := new } := by
  have performed : s.perform (.onAlbum name (.rename new)) =
      .ok (s.change (s.store.setAlbum a { album with name := new }) .null) := by
    simp only [perform_onAlbum found, onAlbum, albumName_of_ne nonempty]
  rw [step, performed]
  rfl

/-- Where names differ, a step makes two of them coincide exactly if it is a clash. -/
theorem namesDiffer_step_iff (h : s.store.Holds r l) (differ : s.NamesDiffer r) (st : Step) :
    (s.step st).1.NamesDiffer r ↔ ¬ s.Clashes r st.action := by
  have apart := (namesDiffer_iff h).1 differ
  constructor
  · intro differ' clash
    obtain ⟨action, saveAs⟩ := st
    cases clash with
    | @rename name _ a b album other found held held' different renamed stored nonempty =>
      cases h.found.symm.trans found
      have after := store_step_rename renamed nonempty saveAs
      have albums : (s.step ⟨.onAlbum name (.rename other.name), saveAs⟩).1.store.albums =
          a.modify (fun _ => { album with name := other.name }) s.store.albums := by
        rw [after]
        rfl
      have libraries : r.get?
          (s.step ⟨.onAlbum name (.rename other.name), saveAs⟩).1.store.libraries = some l := by
        rw [after]
        exact h.found
      have result := h.rename libraries
        (Store.nameOf?_of_modify albums (get?_of_album renamed))
        fun c other => Store.nameOf?_of_modify_of_ne albums other
      have named : s.store.nameOf? b = some other.name := by
        rw [Store.nameOf?, stored]
        rfl
      exact different ((result.2 apart).1 ((namesDiffer_iff result.1).1 differ') held b held' named)
  · intro noClash
    obtain ⟨l', holds, keeps⟩ := (s.step_leadsTo st).holds h rfl rfl
    exact (namesDiffer_iff holds).2 (keeps noClash apart)

/-! ### Runs -/

theorem exists_holds_run (h : s.store.Holds r l) (steps : List Step) :
    ∃ l', (s.run steps).1.store.Holds r l' := by
  induction steps generalizing s l with
  | nil => exact ⟨l, h⟩
  | cons st rest ih =>
    obtain ⟨l', holds⟩ := exists_holds_step h st
    exact ih holds

/-- Names that differ at first differ after each step of a run exactly if no step of it is a
clash. -/
theorem namesDiffer_run_iff (h : s.store.Holds r l) (differ : s.NamesDiffer r)
    (steps : List Step) :
    (∀ done, done <+: steps → (s.run done).1.NamesDiffer r) ↔
      ∀ done st, done ++ [st] <+: steps → ¬ (s.run done).1.Clashes r st.action := by
  constructor
  · intro all done st upTo
    obtain ⟨l', holds⟩ := exists_holds_run h done
    have before := all done ((List.prefix_append done [st]).trans upTo)
    rw [← namesDiffer_step_iff holds before, ← run_concat]
    exact all _ upTo
  · intro noClash done
    induction done using List.reverseRecOn with
    | nil => exact fun _ => differ
    | append_singleton done st ih =>
      intro upTo
      obtain ⟨l', holds⟩ := exists_holds_run h done
      have before := ih ((List.prefix_append done [st]).trans upTo)
      rw [run_concat, namesDiffer_step_iff holds before]
      exact noClash done st upTo

end Session

/-- A library without albums, in any session, and any steps that follow: after each of them the names
of the albums that the library holds differ from each other exactly if none of the steps renames one
of these albums to the name of another one. And at any time the names differ exactly if looking an
album up by its name finds that album. -/
theorem names_differ_iff_no_clash {s : Session} {r : Ref StoredLibrary} {owner : String}
    (h : r.get? s.store.libraries = some ⟨owner, []⟩) (steps : List Step) :
    ((∀ done, done <+: steps → (s.run done).1.NamesDiffer r) ↔
      ∀ done st, done ++ [st] <+: steps → ¬ (s.run done).1.Clashes r st.action) ∧
    ∀ done, done <+: steps → ((s.run done).1.NamesDiffer r ↔ (s.run done).1.FindsEach r) := by
  have holds : s.store.Holds r ⟨owner, []⟩ := ⟨h, List.nodup_nil, fun a ha => nomatch ha⟩
  have differ : s.NamesDiffer r := (Session.namesDiffer_iff holds).2 fun a ha => nomatch ha
  refine ⟨Session.namesDiffer_run_iff holds differ steps, fun done _ => ?_⟩
  obtain ⟨l', holds'⟩ := Session.exists_holds_run holds done
  rw [Session.namesDiffer_iff holds', Session.findsEach_iff holds']

/-- A library without albums, and two albums beside it. -/
def twoAlbums : List Step :=
  [⟨.makeLibrary (.str "me") [], some "l"⟩, ⟨.makeAlbum (.str "A") [], some "a"⟩,
    ⟨.makeAlbum (.str "B") [], some "b"⟩]

/-- Adds the two albums; then gives one the name of the other. -/
def addBothThenRename : List Step :=
  [⟨.onLibrary "l" (.insert "a"), none⟩, ⟨.onLibrary "l" (.insert "b"), none⟩,
    ⟨.onAlbum "b" (.rename "A"), none⟩]

theorem names_differ_iff_no_clash_twoAlbums :
    (Ref.mk 0).get? ((Session.start .empty).run twoAlbums).1.store.libraries = some ⟨"me", []⟩ ∧
    ((∀ done, done <+: addBothThenRename →
        (((Session.start .empty).run twoAlbums).1.run done).1.NamesDiffer ⟨0⟩) ↔
      ∀ done st, done ++ [st] <+: addBothThenRename →
        ¬ (((Session.start .empty).run twoAlbums).1.run done).1.Clashes ⟨0⟩ st.action) :=
  ⟨rfl, (names_differ_iff_no_clash rfl addBothThenRename).1⟩

/-- The library then holds two albums of one name. -/
theorem renaming_repeats_name :
    ¬ ((Session.start .empty).run (twoAlbums ++ addBothThenRename)).1.NamesDiffer ⟨0⟩ := by
  rintro ⟨l, found, nodup⟩
  have held : some (⟨"me", [⟨0⟩, ⟨1⟩]⟩ : StoredLibrary) = some l := found
  cases held
  exact absurd nodup (by decide)

end PhotoSearch
