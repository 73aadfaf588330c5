import PhotoSearch.Proofs.Time.ReadBack
import PhotoSearch.Record.Reading

/-!
What reading makes sure of. Tags are made of tokens, the texts of timestamps show their zones, and
albums have names, wherever in a record they stand and whatever the record was read from.
-/

namespace PhotoSearch

instance (s : String) : Decidable (IsToken s) := decidable_of_iff _ (tokenFault?_eq_none_iff s)

instance (t : Tag) : Decidable t.Valid := inferInstanceAs (Decidable (_ ∧ _))

def TagSet.Valid (s : TagSet) : Prop := ∀ t ∈ s.tags, t.Valid

instance (s : TagSet) : Decidable s.Valid := inferInstanceAs (Decidable (∀ t ∈ s.tags, t.Valid))

theorem TagSet.valid_empty : TagSet.empty.Valid := fun _ h => nomatch h

structure Photo.Valid (p : Photo) : Prop where
  tags : p.tags.Valid
  timestamp : p.timestamp.IsShown

instance (p : Photo) : Decidable p.Valid :=
  decidable_of_iff (p.tags.Valid ∧ p.timestamp.IsShown) ⟨fun h => ⟨h.1, h.2⟩, fun h => ⟨h.1, h.2⟩⟩

structure Album.Valid (a : Album) : Prop where
  name : a.name ≠ ""
  photos : ∀ p ∈ a.photos, p.Valid

def Library.Valid (l : Library) : Prop := ∀ a ∈ l.albums, a.Valid

def Outcome.Valid (o : Outcome) : Prop := ∀ p ∈ o.photos, p.Valid

namespace Reading

variable {α β : Type} {read : Reading α} {P : α → Prop}

/-- Whatever is read has the property. -/
def Ensures (read : Reading α) (P : α → Prop) : Prop := ∀ p d a, read p d = .good a → P a

theorem ensures_record {read : Place → List (String × Data) → Checked α}
    (h : ∀ p fields a, read p fields = .good a → P a) : Ensures (record read) P := by
  intro p d a good
  cases d with
  | object fields => exact h p fields a good
  | _ => cases good

theorem Ensures.required (h : Ensures read P) {name : String} {p : Place}
    {fields : List (String × Data)} {a : α} (good : required name read p fields = .good a) : P a := by
  unfold Reading.required at good
  split at good
  · exact h _ _ _ good
  · cases good

theorem Ensures.defaulted (h : Ensures read P) {default : α} (hd : P default) {name : String}
    {p : Place} {fields : List (String × Data)} {a : α}
    (good : defaulted name read default p fields = .good a) : P a := by
  unfold Reading.defaulted at good
  split at good
  · exact h _ _ _ good
  · cases good
    exact hd

theorem Ensures.items {read : Place → β → Checked α} (h : ∀ p d a, read p d = .good a → P a)
    {p : Place} {i : Nat} {ds : List β} {as : List α} (good : items read p i ds = .good as) :
    ∀ a ∈ as, P a := by
  induction ds generalizing i as with
  | nil =>
    cases good
    exact fun _ member => nomatch member
  | cons d ds ih =>
    obtain ⟨g, rest, first, others, rfl⟩ := Checked.seq_eq_good_iff.1 good
    obtain ⟨a, head, rfl⟩ := Checked.map_eq_good_iff.1 first
    exact List.forall_mem_cons.2 ⟨h _ _ _ head, ih others⟩

theorem Ensures.list (h : Ensures read P) : Ensures (list read) fun as => ∀ a ∈ as, P a := by
  intro p d as good
  cases d with
  | list ds => exact Ensures.items h good
  | _ => cases good

/-! ### The records -/

theorem token_str_eq_good_iff {p : Place} {s t : String} :
    token p (.str s) = .good t ↔ t = s ∧ IsToken s := by
  rw [← tokenFault?_eq_none_iff]
  cases fault : tokenFault? s with
  | none =>
    simp only [token, fault, Checked.good.injEq, and_true]
    exact eq_comm
  | some f =>
    simp only [token, fault]
    cases f <;> simp [issue]

theorem ensures_token : Ensures token IsToken := by
  intro p d s good
  cases d with
  | str text =>
    obtain ⟨rfl, isToken⟩ := token_str_eq_good_iff.1 good
    exact isToken
  | _ => cases good

theorem ensures_tag : Ensures tag Tag.Valid := by
  intro p d t good
  refine ensures_record (fun p fields t read => ?_) p (tagFields d) t good
  obtain ⟨g, value, first, readValue, rfl⟩ := Checked.seq_eq_good_iff.1 read
  obtain ⟨key, readKey, rfl⟩ := Checked.map_eq_good_iff.1 first
  exact ⟨ensures_token.required readKey, ensures_token.required readValue⟩

theorem ensures_tagSet : Ensures tagSet TagSet.Valid := by
  intro p d s good
  obtain ⟨tags, read, rfl⟩ := Checked.map_eq_good_iff.1 good
  exact ensures_tag.list p d tags read

theorem timestampFault_eq_good_iff {p : Place} {result : Except TimestampFault Timestamp}
    {t : Timestamp} : timestampFault p result = .good t ↔ result = .ok t := by
  cases result with
  | ok u => simp [timestampFault]
  | error fault => cases fault <;> simp [timestampFault, issue]

theorem ensures_timestamp : Ensures timestamp Timestamp.IsShown := by
  intro p d t good
  cases d with
  | str s => exact Timestamp.isShown_of_ofText (timestampFault_eq_good_iff.1 good)
  | int n => exact Timestamp.isShown_of_ofUnix (timestampFault_eq_good_iff.1 good)
  | decimal mantissa places =>
    exact Timestamp.isShown_of_ofUnixDecimal (timestampFault_eq_good_iff.1 good)
  | _ => cases good

theorem ensures_photo : Ensures photo Photo.Valid := by
  apply ensures_record
  intro p fields v good
  obtain ⟨_, caption, upToPath, -, rfl⟩ := Checked.seq_eq_good_iff.1 good
  obtain ⟨_, path, upToTags, -, rfl⟩ := Checked.seq_eq_good_iff.1 upToPath
  obtain ⟨_, tags, upToTime, readTags, rfl⟩ := Checked.seq_eq_good_iff.1 upToTags
  obtain ⟨_, time, upToId, readTime, rfl⟩ := Checked.seq_eq_good_iff.1 upToTime
  obtain ⟨id, -, rfl⟩ := Checked.map_eq_good_iff.1 upToId
  exact ⟨ensures_tagSet.defaulted TagSet.valid_empty readTags, ensures_timestamp.required readTime⟩

theorem ensures_albumName : Ensures albumName (· ≠ "") := by
  intro p d name good
  cases d with
  | str text =>
    by_cases empty : text = ""
    · simp [albumName, PhotoSearch.albumName, empty, issue] at good
    · simp only [albumName, albumName_of_ne empty] at good
      cases good
      exact empty
  | _ => cases good

theorem ensures_photos : Ensures (list photo) fun photos => ∀ p ∈ photos, p.Valid :=
  ensures_photo.list

theorem ensures_album : Ensures album Album.Valid := by
  apply ensures_record
  intro p fields a good
  obtain ⟨_, photos, upToName, readPhotos, rfl⟩ := Checked.seq_eq_good_iff.1 good
  obtain ⟨name, readName, rfl⟩ := Checked.map_eq_good_iff.1 upToName
  exact ⟨ensures_albumName.required readName, ensures_photos.defaulted (by simp) readPhotos⟩

theorem ensures_library : Ensures library Library.Valid := by
  apply ensures_record
  intro p fields l good
  obtain ⟨_, albums, upToOwner, readAlbums, rfl⟩ := Checked.seq_eq_good_iff.1 good
  obtain ⟨owner, -, rfl⟩ := Checked.map_eq_good_iff.1 upToOwner
  exact ensures_album.list.defaulted (by simp) readAlbums

theorem ensures_outcome : Ensures outcome Outcome.Valid := by
  apply ensures_record
  intro p fields o good
  obtain ⟨_, error, upToPhotos, -, rfl⟩ := Checked.seq_eq_good_iff.1 good
  obtain ⟨_, photos, upToKind, readPhotos, rfl⟩ := Checked.seq_eq_good_iff.1 upToPhotos
  obtain ⟨_, kind, upToQuery, -, rfl⟩ := Checked.seq_eq_good_iff.1 upToKind
  obtain ⟨query, -, rfl⟩ := Checked.map_eq_good_iff.1 upToQuery
  exact ensures_photos.defaulted (by simp) readPhotos

end Reading

end PhotoSearch
