import PhotoSearch.Proofs.Record.Validity
import PhotoSearch.Proofs.Time.ReadBack
import PhotoSearch.Record.Kind

/-!
Records as they are written, read back. What reading accepts is wider than what writing makes, and a
record that was read from anything is read from its own data as the same record again.
-/

namespace PhotoSearch

/-! ### Identities as texts -/

def Photo.HasId (p : Photo) : Prop := ∃ s, p.id = .given s

def Album.HasIds (a : Album) : Prop := ∀ p ∈ a.photos, p.HasId

def Library.HasIds (l : Library) : Prop := ∀ a ∈ l.albums, a.HasIds

def Outcome.HasIds (o : Outcome) : Prop := ∀ p ∈ o.photos, p.HasId

section WithIds

variable (assign : Place → String)

/-- The photo as it is known outside: if it was given no identity, by the one assigned to its
place. -/
def Photo.withId (p : Photo) : Photo :=
  match p.id with
  | .given _ => p
  | .unnamed place => { p with id := .given (assign place) }

def Album.withIds (a : Album) : Album := { a with photos := a.photos.map (Photo.withId assign) }

def Library.withIds (l : Library) : Library :=
  { l with albums := l.albums.map (Album.withIds assign) }

def Outcome.withIds (o : Outcome) : Outcome :=
  { o with photos := o.photos.map (Photo.withId assign) }

variable {assign}

theorem Photo.HasId.withId_eq {p : Photo} (h : p.HasId) : p.withId assign = p := by
  obtain ⟨s, id⟩ := h
  simp only [withId, id]

theorem Photo.hasId_withId (p : Photo) : (p.withId assign).HasId := by
  cases id : p.id with
  | given s => exact ⟨s, by simp only [withId, id]⟩
  | unnamed place => exact ⟨assign place, by simp only [withId, id]⟩

@[simp] theorem Photo.tags_withId (p : Photo) : (p.withId assign).tags = p.tags := by
  unfold withId
  split <;> rfl

@[simp] theorem Photo.timestamp_withId (p : Photo) :
    (p.withId assign).timestamp = p.timestamp := by
  unfold withId
  split <;> rfl

theorem Photo.Valid.withId {p : Photo} (h : p.Valid) : (p.withId assign).Valid :=
  ⟨by simpa using h.tags, by simpa using h.timestamp⟩

section Photos

variable {photos : List Photo}

theorem map_withId_eq (h : ∀ p ∈ photos, p.HasId) : photos.map (Photo.withId assign) = photos :=
  (List.map_congr_left fun p member => (h p member).withId_eq).trans (List.map_id photos)

theorem forall_hasId_map_withId : ∀ p ∈ photos.map (Photo.withId assign), p.HasId := by
  intro p member
  obtain ⟨v, -, rfl⟩ := List.mem_map.1 member
  exact v.hasId_withId

theorem forall_valid_map_withId (h : ∀ p ∈ photos, p.Valid) :
    ∀ p ∈ photos.map (Photo.withId assign), p.Valid := by
  intro p member
  obtain ⟨v, hv, rfl⟩ := List.mem_map.1 member
  exact (h v hv).withId

end Photos

theorem Album.HasIds.withIds_eq {a : Album} (h : a.HasIds) : a.withIds assign = a := by
  rw [withIds, map_withId_eq h]

theorem Album.hasIds_withIds (a : Album) : (a.withIds assign).HasIds := forall_hasId_map_withId

theorem Album.Valid.withIds {a : Album} (h : a.Valid) : (a.withIds assign).Valid :=
  ⟨h.name, forall_valid_map_withId h.photos⟩

theorem Library.HasIds.withIds_eq {l : Library} (h : l.HasIds) : l.withIds assign = l := by
  have albums : l.albums.map (Album.withIds assign) = l.albums :=
    (List.map_congr_left fun a member => (h a member).withIds_eq).trans (List.map_id l.albums)
  rw [withIds, albums]

theorem Library.hasIds_withIds (l : Library) : (l.withIds assign).HasIds := by
  intro a member
  obtain ⟨b, -, rfl⟩ := List.mem_map.1 member
  exact b.hasIds_withIds

theorem Library.Valid.withIds {l : Library} (h : l.Valid) : (l.withIds assign).Valid := by
  intro a member
  obtain ⟨b, hb, rfl⟩ := List.mem_map.1 member
  exact (h b hb).withIds

theorem Outcome.HasIds.withIds_eq {o : Outcome} (h : o.HasIds) : o.withIds assign = o := by
  rw [withIds, map_withId_eq h]

theorem Outcome.hasIds_withIds (o : Outcome) : (o.withIds assign).HasIds :=
  forall_hasId_map_withId

theorem Outcome.Valid.withIds {o : Outcome} (h : o.Valid) : (o.withIds assign).Valid :=
  forall_valid_map_withId h

/-! Data shows a text of its own for an identity that was not given. -/

def unnamedText (place : Place) : String := (PhotoId.unnamed place).text

theorem Photo.toData_withId (p : Photo) : (p.withId unnamedText).toData = p.toData := by
  cases id : p.id with
  | given s => rw [Photo.HasId.withId_eq ⟨s, id⟩]
  | unnamed place => simp only [withId, id, toData, unnamedText, PhotoId.text]

theorem listToData_map_withId (photos : List Photo) :
    Photo.listToData (photos.map (Photo.withId unnamedText)) = Photo.listToData photos := by
  simp only [Photo.listToData, List.map_map, Function.comp_def, Photo.toData_withId]

theorem Album.toData_withIds (a : Album) : (a.withIds unnamedText).toData = a.toData := by
  rw [toData, withIds, listToData_map_withId, toData]

theorem Library.toData_withIds (l : Library) : (l.withIds unnamedText).toData = l.toData := by
  simp only [toData, withIds, List.map_map, Function.comp_def, Album.toData_withIds]

theorem Outcome.toData_withIds (o : Outcome) : (o.withIds unnamedText).toData = o.toData := by
  rw [toData, withIds, listToData_map_withId, toData]

end WithIds

namespace Reading

variable {α β : Type} {read : Reading α} {write : α → Data}

/-- The value is read from what is written for it, wherever that stands. -/
def ReadsBack (read : Reading α) (write : α → Data) (a : α) : Prop :=
  ∀ p, read p (write a) = .good a

/-! ### Parts of records -/

theorem string_readsBack (s : String) : ReadsBack string .str s := fun _ => rfl

theorem token_readsBack {s : String} (h : IsToken s) : ReadsBack token .str s := fun _ =>
  token_str_eq_good_iff.2 ⟨rfl, h⟩

theorem timestamp_readsBack {t : Timestamp} (h : t.IsShown) :
    ReadsBack timestamp Timestamp.toData t := by
  intro p
  rw [Timestamp.toData, timestamp, timestampFault_eq_good_iff]
  exact Timestamp.ofText_text h

theorem albumName_readsBack {name : String} (h : name ≠ "") : ReadsBack albumName .str name := by
  intro p
  simp only [albumName, albumName_of_ne h]

/-- A value that is not written as null is read back where null is allowed. -/
theorem nullable_readsBack {o : Option α} (h : ∀ a ∈ o, ReadsBack read write a)
    (notNull : ∀ a, write a ≠ .null) : ReadsBack (nullable read) (Data.ofOption write) o := by
  intro p
  cases o with
  | none => rfl
  | some a =>
    have readA := h a rfl p
    rw [Data.ofOption]
    unfold nullable
    split
    · rename_i null
      exact absurd null (notNull a)
    · rw [readA]
      rfl

theorem nullable_string_readsBack (o : Option String) :
    ReadsBack (nullable string) Data.ofOptionalString o :=
  nullable_readsBack (fun s _ => string_readsBack s) fun _ h => nomatch h

theorem items_map {read : Place → β → Checked α} {f : α → β} {as : List α}
    (h : ∀ a ∈ as, ∀ p, read p (f a) = .good a) (p : Place) (i : Nat) :
    items read p i (as.map f) = .good as := by
  induction as generalizing i with
  | nil => rfl
  | cons a rest ih =>
    obtain ⟨head, others⟩ := List.forall_mem_cons.1 h
    rw [List.map_cons, items, head, ih others]
    rfl

theorem list_readsBack {as : List α} (h : ∀ a ∈ as, ReadsBack read write a) :
    ReadsBack (list read) (fun as => .list (as.map write)) as := fun p => items_map h p 0

/-! ### Tags and photos -/

theorem tag_readsBack {t : Tag} (h : t.Valid) : ReadsBack tag Tag.toData t := by
  intro p
  have key := token_readsBack h.1 (p.field "key")
  have value := token_readsBack h.2 (p.field "value")
  show Tag.mk <$> token (p.field "key") (.str t.key) <*>
    token (p.field "value") (.str t.value) = .good t
  rw [key, value]
  rfl

/-- The tag of a key and a value is read exactly if both are tokens. -/
theorem tag_fields_eq_good_iff {p : Place} {key value : String} {t : Tag} :
    tag p (.object [("key", .str key), ("value", .str value)]) = .good t ↔
      t = ⟨key, value⟩ ∧ t.Valid := by
  constructor
  · intro good
    obtain ⟨g, v, first, readValue, made⟩ := Checked.seq_eq_good_iff.1 good
    obtain ⟨k, readKey, same⟩ := Checked.map_eq_good_iff.1 first
    obtain ⟨rfl, -⟩ := token_str_eq_good_iff.1 readKey
    obtain ⟨rfl, -⟩ := token_str_eq_good_iff.1 readValue
    rw [← same] at made
    exact ⟨made.symm, ensures_tag _ _ _ good⟩
  · rintro ⟨rfl, valid⟩
    exact tag_readsBack valid p

theorem tagSet_readsBack {s : TagSet} (h : s.Valid) : ReadsBack tagSet TagSet.toData s := by
  intro p
  have tags := list_readsBack (fun t member => tag_readsBack (h t member)) p
  rw [tagSet, TagSet.toData, tags]
  rfl

theorem photo_readsBack {v : Photo} (h : v.Valid) (hid : v.HasId) :
    ReadsBack photo Photo.toData v := by
  intro p
  obtain ⟨s, given⟩ := hid
  have id : PhotoId.given <$> string (p.field "id") (.str v.id.text) = .good v.id := by
    rw [given]
    rfl
  have time := timestamp_readsBack h.timestamp (p.field "timestamp")
  have tags := tagSet_readsBack h.tags (p.field "tags")
  have path := nullable_string_readsBack v.path (p.field "path")
  have caption := nullable_string_readsBack v.caption (p.field "caption")
  show Photo.mk <$> (PhotoId.given <$> string (p.field "id") (.str v.id.text)) <*>
    timestamp (p.field "timestamp") v.timestamp.toData <*>
    tagSet (p.field "tags") v.tags.toData <*>
    nullable string (p.field "path") (.ofOptionalString v.path) <*>
    nullable string (p.field "caption") (.ofOptionalString v.caption) = .good v
  rw [id, time, tags, path, caption]
  rfl

/-- Photos that were given identities are read back, in their order. -/
theorem photos_readsBack {photos : List Photo} (h : ∀ p ∈ photos, p.Valid)
    (hid : ∀ p ∈ photos, p.HasId) : ReadsBack (list photo) Photo.listToData photos :=
  list_readsBack fun p member => photo_readsBack (h p member) (hid p member)

/-! ### Albums and libraries -/

theorem album_readsBack {a : Album} (h : a.Valid) (hid : a.HasIds) :
    ReadsBack album Album.toData a := by
  intro p
  have name := albumName_readsBack h.name (p.field "name")
  have photos := photos_readsBack h.photos hid (p.field "photos")
  show Album.mk <$> albumName (p.field "name") (.str a.name) <*>
    list photo (p.field "photos") (Photo.listToData a.photos) = .good a
  rw [name, photos]
  rfl

theorem library_readsBack {l : Library} (h : l.Valid) (hid : l.HasIds) :
    ReadsBack library Library.toData l := by
  intro p
  have owner := string_readsBack l.owner (p.field "owner")
  have albums := list_readsBack (fun a member => album_readsBack (h a member) (hid a member))
    (p.field "albums")
  show Library.mk <$> string (p.field "owner") (.str l.owner) <*>
    list album (p.field "albums") (.list (l.albums.map Album.toData)) = .good l
  rw [owner, albums]
  rfl

/-! ### Queries -/

theorem integer_readsBack (n : Int) : ReadsBack integer .int n := fun _ => rfl

theorem typedDay_readsBack (d : TypedDay) : ReadsBack typedDay TypedDay.toData d := by
  intro p
  have month := integer_readsBack d.month (p.field "month")
  have day := integer_readsBack d.day (p.field "day")
  have year := integer_readsBack d.year (p.field "year")
  show TypedDay.mk <$> integer (p.field "month") (.int d.month) <*>
    integer (p.field "day") (.int d.day) <*> integer (p.field "year") (.int d.year) = .good d
  rw [month, day, year]
  rfl

theorem dayRange_readsBack (r : DayRange) : ReadsBack dayRange DayRange.toData r := by
  intro p
  have text := string_readsBack r.text (p.field "text")
  have start := typedDay_readsBack r.start (p.field "start")
  have finish := typedDay_readsBack r.finish (p.field "end")
  show (fun _ => DayRange.mk) <$> (.good () : Checked Unit) <*>
    string (p.field "text") (.str r.text) <*> typedDay (p.field "start") r.start.toData <*>
    typedDay (p.field "end") r.finish.toData = .good r
  rw [text, start, finish]
  rfl

theorem term_readsBack (t : TagTerm) : ReadsBack term TagTerm.toData t := by
  intro p
  have key := string_readsBack t.key (p.field "key")
  have value := string_readsBack t.value (p.field "value")
  show (fun _ => TagTerm.mk) <$> (.good () : Checked Unit) <*>
    string (p.field "key") (.str t.key) <*> string (p.field "value") (.str t.value) = .good t
  rw [key, value]
  rfl

theorem connective_readsBack (op : Connective) :
    ReadsBack connective (fun op => .str op.word) op := by
  intro p
  cases op <;> rfl

theorem combined_readsBack (left right : TagTerm) (op : Connective) :
    ReadsBack formula TagFormula.toData (.combined left right op) := by
  intro p
  have readLeft := term_readsBack left (p.field "left")
  have readRight := term_readsBack right (p.field "right")
  have readOp := connective_readsBack op (p.field "op")
  show (fun _ => TagFormula.combined) <$> (.good () : Checked Unit) <*>
    term (p.field "left") left.toData <*> term (p.field "right") right.toData <*>
    connective (p.field "op") (.str op.word) = .good (.combined left right op)
  rw [readLeft, readRight, readOp]
  rfl

/-- What is read as a formula combines two terms; a single term is a record of another kind. -/
theorem ensures_combined :
    Ensures formula fun f => ∃ left right op, f = .combined left right op := by
  apply ensures_record
  intro p fields f good
  obtain ⟨_, op, upToRight, -, rfl⟩ := Checked.seq_eq_good_iff.1 good
  obtain ⟨_, right, upToLeft, -, rfl⟩ := Checked.seq_eq_good_iff.1 upToRight
  obtain ⟨_, left, word, -, rfl⟩ := Checked.seq_eq_good_iff.1 upToLeft
  obtain ⟨_, -, rfl⟩ := Checked.map_eq_good_iff.1 word
  exact ⟨left, right, op, rfl⟩

/-! ### Outcomes -/

theorem errorNote_readsBack (e : ErrorNote) : ReadsBack errorNote ErrorNote.toData e := by
  intro p
  have code := string_readsBack e.code (p.field "code")
  have message := string_readsBack e.message (p.field "message")
  show ErrorNote.mk <$> string (p.field "code") (.str e.code) <*>
    string (p.field "message") (.str e.message) = .good e
  rw [code, message]
  rfl

theorem outcome_readsBack {o : Outcome} (h : o.Valid) (hid : o.HasIds) :
    ReadsBack outcome Outcome.toData o := by
  intro p
  have query := string_readsBack o.query (p.field "query")
  have kind := nullable_string_readsBack o.kind (p.field "kind")
  have photos := photos_readsBack h hid (p.field "photos")
  have error := nullable_readsBack (o := o.error) (fun e _ => errorNote_readsBack e)
    (fun _ h => nomatch h) (p.field "error")
  show Outcome.mk <$> string (p.field "query") (.str o.query) <*>
    nullable string (p.field "kind") (.ofOptionalString o.kind) <*>
    list photo (p.field "photos") (Photo.listToData o.photos) <*>
    nullable errorNote (p.field "error") (.ofOption ErrorNote.toData o.error) = .good o
  rw [query, kind, photos, error]
  rfl

/-! ### What was read, read again -/

section Reread

variable {assign : Place → String} {p : Place} {d : Data}

theorem photo_reread {v : Photo} (h : photo p d = .good v) :
    ReadsBack photo Photo.toData (v.withId assign) :=
  photo_readsBack (ensures_photo p d v h).withId v.hasId_withId

theorem album_reread {a : Album} (h : album p d = .good a) :
    ReadsBack album Album.toData (a.withIds assign) :=
  album_readsBack (ensures_album p d a h).withIds a.hasIds_withIds

theorem library_reread {l : Library} (h : library p d = .good l) :
    ReadsBack library Library.toData (l.withIds assign) :=
  library_readsBack (ensures_library p d l h).withIds l.hasIds_withIds

theorem outcome_reread {o : Outcome} (h : outcome p d = .good o) :
    ReadsBack outcome Outcome.toData (o.withIds assign) :=
  outcome_readsBack (ensures_outcome p d o h).withIds o.hasIds_withIds

end Reread

/-- What is read back is also written again as it was. -/
theorem ReadsBack.rewrites {a : α} (h : ReadsBack read write a) (p : Place) :
    write <$> read p (write a) = .good (write a) := by
  rw [h p]
  rfl

end Reading

/-- Writing again what was read from what was written makes no difference. -/
theorem RecordKind.normalize_of_normalize {m : RecordKind} {p : Place} {d e : Data}
    (h : m.normalize p d = .good e) (q : Place) : m.normalize q e = .good e := by
  cases m <;> obtain ⟨v, good, rfl⟩ := Checked.map_eq_good_iff.1 h
  case tag => exact (Reading.tag_readsBack (Reading.ensures_tag p d v good)).rewrites q
  case tagSet => exact (Reading.tagSet_readsBack (Reading.ensures_tagSet p d v good)).rewrites q
  case photo =>
    rw [← v.toData_withId]
    exact (Reading.photo_reread good).rewrites q
  case album =>
    rw [← v.toData_withIds]
    exact (Reading.album_reread good).rewrites q
  case library =>
    rw [← v.toData_withIds]
    exact (Reading.library_reread good).rewrites q
  case typedDay => exact (Reading.typedDay_readsBack v).rewrites q
  case dayRange => exact (Reading.dayRange_readsBack v).rewrites q
  case term => exact (Reading.term_readsBack v).rewrites q
  case formula =>
    obtain ⟨left, right, op, rfl⟩ := Reading.ensures_combined p d v good
    exact (Reading.combined_readsBack left right op).rewrites q
  case errorNote => exact (Reading.errorNote_readsBack v).rewrites q
  case outcome =>
    rw [← v.toData_withIds]
    exact (Reading.outcome_reread good).rewrites q

/-- Tags come in two notations and are written in one of them. -/
example : RecordKind.tagSet.normalize (.root 0) (.list [.list [.str "city", .str "Rome"],
    .object [("value", .str "2024"), ("key", .str "year")]]) =
      .good (.list [.object [("key", .str "city"), ("value", .str "Rome")],
        .object [("key", .str "year"), ("value", .str "2024")]]) := rfl

/-- Photos, albums, libraries and outcomes, read from anything, are read again as themselves from
their own data, wherever it stands, with any texts for the identities that were not given; those that
were given stay as they are. Records of every kind are written the second time as they were the
first time. -/
theorem reads_back_what_is_written (assign : Place → String) (p : Place) (d : Data) :
    (∀ v, Reading.photo p d = .good v →
      Reading.ReadsBack Reading.photo Photo.toData (v.withId assign) ∧
      (v.HasId → v.withId assign = v)) ∧
    (∀ a, Reading.album p d = .good a →
      Reading.ReadsBack Reading.album Album.toData (a.withIds assign) ∧
      (a.HasIds → a.withIds assign = a)) ∧
    (∀ l, Reading.library p d = .good l →
      Reading.ReadsBack Reading.library Library.toData (l.withIds assign) ∧
      (l.HasIds → l.withIds assign = l)) ∧
    (∀ o, Reading.outcome p d = .good o →
      Reading.ReadsBack Reading.outcome Outcome.toData (o.withIds assign) ∧
      (o.HasIds → o.withIds assign = o)) ∧
    ∀ (m : RecordKind) (e : Data), m.normalize p d = .good e →
      ∀ q, m.normalize q e = .good e :=
  ⟨fun _ h => ⟨Reading.photo_reread h, Photo.HasId.withId_eq⟩,
    fun _ h => ⟨Reading.album_reread h, Album.HasIds.withIds_eq⟩,
    fun _ h => ⟨Reading.library_reread h, Library.HasIds.withIds_eq⟩,
    fun _ h => ⟨Reading.outcome_reread h, Outcome.HasIds.withIds_eq⟩,
    fun _ _ h q => RecordKind.normalize_of_normalize h q⟩

end PhotoSearch
