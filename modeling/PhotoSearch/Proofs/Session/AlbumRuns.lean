import PhotoSearch.Proofs.Session.Names
import PhotoSearch.Session.Run

/-!
Albums over runs of calls that put photos in and take photos out. The photos of one identity leave an
album in the order in which they came, whatever happens to the others in between. The albums of a
session go through the same changes.
-/

namespace PhotoSearch

/-- A call on the photos of an album. The photo to be taken out is chosen by a photo or by an
identity. -/
inductive PhotoCall where
  | add (p : Photo)
  | removePhoto (p : Photo)
  | removeId (id : PhotoId)

namespace PhotoCall

def added? : PhotoCall → Option Photo
  | add p => some p
  | _ => none

/-- The identity of which a photo is to be taken out. -/
def target? : PhotoCall → Option PhotoId
  | add _ => none
  | removePhoto p => some p.id
  | removeId id => some id

/-- A call that takes out puts nothing in. -/
theorem added?_of_target {call : PhotoCall} {id : PhotoId} (h : call.target? = some id) :
    call.added? = none := by
  cases call with
  | add p => cases h
  | removePhoto p | removeId id => rfl

end PhotoCall

namespace Album

variable {a b : Album} {call : PhotoCall} {reply : Option Bool}

/-- The album after a call. -/
def after (a : Album) : PhotoCall → Album
  | .add p => a.add p
  | .removePhoto p => (a.remove? p.id).getD a
  | .removeId id => (a.remove? id).getD a

/-- What is answered to a call: whether a photo was taken out, if one was to be. -/
def answer (a : Album) (call : PhotoCall) : Option Bool :=
  call.target?.map fun id => (a.remove? id).isSome

/-- The album after all the calls. -/
def afterAll (a : Album) (calls : List PhotoCall) : Album := calls.foldl after a

/-- The calls, each with its answer. -/
def log (a : Album) : List PhotoCall → List (PhotoCall × Option Bool)
  | [] => []
  | call :: rest => (call, a.answer call) :: (a.after call).log rest

/-- How many of the calls took a photo of this identity out. -/
def removalsOf (a : Album) (id : PhotoId) (calls : List PhotoCall) : Nat :=
  (a.log calls).countP fun entry => entry.1.target? = some id ∧ entry.2 = some true

/-- How many of the calls took a photo out. -/
def removals (a : Album) (calls : List PhotoCall) : Nat :=
  (a.log calls).countP fun entry => entry.2 = some true

/-! ### Single calls -/

/-- The first photo of the identity goes, and what stood before it and behind it stays in order. -/
theorem exists_of_remove? {id : PhotoId} (h : a.remove? id = some b) :
    ∃ before p behind, a.photos = before ++ p :: behind ∧ p.id = id ∧
      (∀ q ∈ before, q.id ≠ id) ∧ b = { a with photos := before ++ behind } := by
  unfold remove? at h
  split at h
  · rename_i present
    obtain ⟨q, hq, found⟩ := List.any_eq_true.1 present
    obtain ⟨p, before, behind, absent, own, whole, erased⟩ :=
      List.exists_of_eraseP (p := fun p => p.id == id) hq found
    cases h
    exact ⟨before, p, behind, whole, by simpa using own, by simpa using absent, by rw [erased]⟩
  · cases h

/-- What calls can lead to, each with its answer. -/
inductive LeadsTo (a : Album) : PhotoCall → Option Bool → Album → Prop
  | added (p : Photo) : LeadsTo a (.add p) none (a.add p)
  | taken {call : PhotoCall} {p : Photo} {before behind : List Photo}
    (target : call.target? = some p.id) (whole : a.photos = before ++ p :: behind)
    (first : ∀ q ∈ before, q.id ≠ p.id) :
    LeadsTo a call (some true) { a with photos := before ++ behind }
  | missing {call : PhotoCall} {id : PhotoId} (target : call.target? = some id)
    (absent : ∀ p ∈ a.photos, p.id ≠ id) : LeadsTo a call (some false) a

theorem leadsTo_of_target {id : PhotoId} (target : call.target? = some id) :
    a.LeadsTo call (some (a.remove? id).isSome) ((a.remove? id).getD a) := by
  cases removed : a.remove? id with
  | none => exact .missing target ((a.remove?_eq_none_iff id).1 removed)
  | some b =>
    obtain ⟨before, p, behind, whole, rfl, first, rfl⟩ := exists_of_remove? removed
    exact .taken target whole first

theorem leadsTo_after (a : Album) (call : PhotoCall) :
    a.LeadsTo call (a.answer call) (a.after call) := by
  cases call with
  | add p => exact .added p
  | removePhoto p => exact leadsTo_of_target rfl
  | removeId id => exact leadsTo_of_target rfl

/-- A call drops the first photo of its identity if it succeeds, and no photo of another one. -/
theorem LeadsTo.filter (h : a.LeadsTo call reply b) (id : PhotoId) (more : List Photo) :
    (b.photos ++ more).filter (fun p => p.id = id) =
      ((a.photos ++ (call.added?.toList ++ more)).filter fun p => p.id = id).drop
        (if call.target? = some id ∧ reply = some true then 1 else 0) := by
  cases h with
  | added p => simp [PhotoCall.added?, PhotoCall.target?, add]
  | @taken _ p before behind target whole first =>
    rw [PhotoCall.added?_of_target target, whole]
    by_cases own : p.id = id
    · have before_none : before.filter (fun q => q.id = id) = [] := by
        simpa [List.filter_eq_nil_iff, ← own] using first
      simp [target, own, before_none]
    · simp [target, own]
  | missing target absent => simp [PhotoCall.added?_of_target target]

theorem LeadsTo.sublist (h : a.LeadsTo call reply b) :
    b.photos.Sublist (a.photos ++ call.added?.toList) := by
  cases h with
  | added p => exact .refl _
  | @taken _ p before behind target whole first =>
    rw [PhotoCall.added?_of_target target, whole]
    simp
  | missing target absent => exact List.sublist_append_left _ _

theorem LeadsTo.size_add (h : a.LeadsTo call reply b) :
    b.size + (if reply = some true then 1 else 0) = a.size + call.added?.toList.length := by
  cases h with
  | added p => simp [PhotoCall.added?]
  | @taken _ p before behind target whole first =>
    simp [PhotoCall.added?_of_target target, size, whole]
    omega
  | missing target absent => simp [PhotoCall.added?_of_target target]

/-- What a call answers at an album and does to it: it takes out the first photo of its identity, and
fails, changing nothing, only if there is none. -/
structure TakesFirst (a : Album) : Prop where
  fails_iff : ∀ call id, PhotoCall.target? call = some id →
    (a.answer call = some false ↔ ∀ p ∈ a.photos, p.id ≠ id)
  failed : ∀ call, a.answer call = some false → a.after call = a
  taken : ∀ call id, PhotoCall.target? call = some id → a.answer call = some true →
    ∃ before p behind, a.photos = before ++ p :: behind ∧ p.id = id ∧ (∀ q ∈ before, q.id ≠ id) ∧
      (a.after call).photos = before ++ behind
  others_stay : ∀ call id, PhotoCall.target? call = some id →
    (a.after call).photos.filter (fun p => p.id ≠ id) = a.photos.filter fun p => p.id ≠ id
  by_photo : ∀ p : Photo, a.answer (.removePhoto p) = a.answer (.removeId p.id) ∧
    a.after (.removePhoto p) = a.after (.removeId p.id)

theorem LeadsTo.others_stay (h : a.LeadsTo call reply b) {id : PhotoId}
    (target : call.target? = some id) :
    b.photos.filter (fun p => p.id ≠ id) = a.photos.filter fun p => p.id ≠ id := by
  cases h with
  | added p => cases target
  | taken target' whole first =>
    obtain rfl := Option.some.inj (target'.symm.trans target)
    simp [whole]
  | missing target' absent => rfl

theorem takesFirst (a : Album) : a.TakesFirst where
  fails_iff call id target := by
    simp [answer, target, remove?_eq_none_iff]
  failed call failed := by
    have led := a.leadsTo_after call
    rw [failed] at led
    generalize a.after call = b at led ⊢
    cases led
    rfl
  taken call id target succeeded := by
    have led := a.leadsTo_after call
    rw [succeeded] at led
    generalize a.after call = b at led
    cases led with
    | @taken _ p before behind target' whole first =>
      obtain rfl := Option.some.inj (target'.symm.trans target)
      exact ⟨before, p, behind, whole, rfl, first, rfl⟩
  others_stay call id target := (a.leadsTo_after call).others_stay target
  by_photo p := ⟨rfl, rfl⟩

/-! ### Runs -/

theorem filterMap_added?_cons (call : PhotoCall) (rest : List PhotoCall) :
    (call :: rest).filterMap PhotoCall.added? =
      call.added?.toList ++ rest.filterMap PhotoCall.added? := by
  cases added : call.added? <;> simp [added]

theorem filter_afterAll (a : Album) (calls : List PhotoCall) (id : PhotoId) :
    (a.afterAll calls).photos.filter (fun p => p.id = id) =
      ((a.photos ++ calls.filterMap PhotoCall.added?).filter fun p => p.id = id).drop
        (a.removalsOf id calls) := by
  induction calls generalizing a with
  | nil => simp [afterAll, removalsOf, log]
  | cons call rest ih =>
    have counted : a.removalsOf id (call :: rest) = (a.after call).removalsOf id rest +
        if call.target? = some id ∧ a.answer call = some true then 1 else 0 := by
      simp [removalsOf, log, List.countP_cons]
    calc ((a.after call).afterAll rest).photos.filter (fun p => p.id = id)
        = (((a.after call).photos ++ rest.filterMap PhotoCall.added?).filter
            fun p => p.id = id).drop ((a.after call).removalsOf id rest) := ih _
      _ = ((a.photos ++ (call :: rest).filterMap PhotoCall.added?).filter
            fun p => p.id = id).drop (a.removalsOf id (call :: rest)) := by
        rw [(a.leadsTo_after call).filter id, List.drop_drop, filterMap_added?_cons, counted,
          Nat.add_comm]

theorem afterAll_sublist (a : Album) (calls : List PhotoCall) :
    (a.afterAll calls).photos.Sublist (a.photos ++ calls.filterMap PhotoCall.added?) := by
  induction calls generalizing a with
  | nil => simp [afterAll]
  | cons call rest ih =>
    have one := (a.leadsTo_after call).sublist.append (.refl (rest.filterMap PhotoCall.added?))
    rw [filterMap_added?_cons, ← List.append_assoc]
    exact (ih (a.after call)).trans one

theorem size_afterAll_add (a : Album) (calls : List PhotoCall) :
    (a.afterAll calls).size + a.removals calls =
      a.size + (calls.filterMap PhotoCall.added?).length := by
  induction calls generalizing a with
  | nil => rfl
  | cons call rest ih =>
    have counted : a.removals (call :: rest) = (a.after call).removals rest +
        if a.answer call = some true then 1 else 0 := by
      simp [removals, log, List.countP_cons]
    have one := (a.leadsTo_after call).size_add
    have all := ih (a.after call)
    rw [filterMap_added?_cons, List.length_append, counted]
    change ((a.after call).afterAll rest).size + _ = _
    omega

/-- The photos after all the calls, compared with those at first and those put in: of each identity the
oldest are gone, as many as were taken out; what is left is in order, and nothing else is lost. -/
structure KeepsQueues (a : Album) (calls : List PhotoCall) : Prop where
  queue : ∀ id, (a.afterAll calls).photos.filter (fun p => p.id = id) =
    ((a.photos ++ calls.filterMap PhotoCall.added?).filter fun p => p.id = id).drop
      (a.removalsOf id calls)
  in_order : (a.afterAll calls).photos.Sublist (a.photos ++ calls.filterMap PhotoCall.added?)
  size : (a.afterAll calls).size + a.removals calls =
    a.size + (calls.filterMap PhotoCall.added?).length

theorem keepsQueues (a : Album) (calls : List PhotoCall) : a.KeepsQueues calls :=
  ⟨a.filter_afterAll calls, a.afterAll_sublist calls, a.size_afterAll_add calls⟩

end Album

/-! ### Sessions -/

/-- Removing a photo from a stored album is removing it from the album's value. -/
theorem Store.map_albumOf_withoutPhoto? (s : Store) (a : StoredAlbum) (id : PhotoId) :
    (s.withoutPhoto? a id).map s.albumOf = (s.albumOf a).remove? id := by
  have found : ((s.photosOf a.photos).any fun p => p.id == id) =
      a.photos.any fun r => s.idOf? r == some id := by
    rw [photosOf, List.any_filterMap]
    congr 1
    funext r
    rw [idOf?]
    cases r.get? s.photos <;> rfl
  have erased : ((s.photosOf a.photos).eraseP fun p => p.id == id) =
      s.photosOf (a.photos.eraseP fun r => s.idOf? r == some id) := by
    rw [photosOf, List.eraseP_filterMap, photosOf]
    congr 2
    funext r
    rw [idOf?]
    cases r.get? s.photos <;> rfl
  rw [withoutPhoto?, Album.remove?, albumOf, found, erased, apply_ite (Option.map s.albumOf)]
  rfl

namespace Session

variable {s s' : Session} {name : String} {r : Ref StoredAlbum} {a : Album}

/-- The name speaks of the album of this reference, and that is stored with this value. -/
def Shows (s : Session) (name : String) (r : Ref StoredAlbum) (a : Album) : Prop :=
  ∃ stored, s.album name = .ok (r, stored) ∧ s.store.albumOf stored = a

/-- The call that an action on an album makes, once the photo it speaks of is looked up. -/
inductive Calls (s : Session) : AlbumAction → PhotoCall → Prop
  | insert {photo : String} {p : Photo} (found : s.photo photo = .ok p) :
    Calls s (.insert photo) (.add p)
  | removeNamed {photo : String} {p : Photo} (found : s.photo photo = .ok p) :
    Calls s (.remove (.named photo)) (.removePhoto p)
  | removeWithId (id : String) : Calls s (.remove (.withId id)) (.removeId (.given id))

theorem photo_congr (names : s'.names = s.names) (photos : s'.store.photos = s.store.photos)
    (photo : String) : s'.photo photo = s.photo photo := by
  simp only [Session.photo, resolve, find?, names, photos]

theorem Calls.congr {action : AlbumAction} {call : PhotoCall} (h : s.Calls action call)
    (names : s'.names = s.names) (photos : s'.store.photos = s.store.photos) :
    s'.Calls action call := by
  cases h with
  | insert found => exact .insert ((photo_congr names photos _).trans found)
  | removeNamed found => exact .removeNamed ((photo_congr names photos _).trans found)
  | removeWithId id => exact .removeWithId id

theorem exists_photoRef {photo : String} {p : Photo} (found : s.photo photo = .ok p) :
    ∃ ref, s.photoRef photo = .ok ref ∧ ref.get? s.store.photos = some p := by
  obtain ⟨b, bound, selected⟩ := resolve_eq_ok_iff.1 found
  cases b with
  | photo ref => exact ⟨ref, resolve_eq_ok_iff.2 ⟨_, bound, rfl⟩, selected⟩
  | _ => cases selected

/-- Where the album of a name is replaced, the name shows the new one. -/
theorem album_of_replaced {stored new : StoredAlbum} (found : s.album name = .ok (r, stored))
    (names : s'.names = s.names) (store : s'.store = s.store.setAlbum r new) :
    s'.album name = .ok (r, new) := by
  obtain ⟨b, bound, selected⟩ := resolve_eq_ok_iff.1 found
  refine resolve_eq_ok_iff.2 ⟨b, by rw [find?, names]; exact bound, ?_⟩
  cases b with
  | album r' =>
    obtain ⟨kept, here, same⟩ := Option.map_eq_some_iff.1 selected
    cases same
    simp only [store, Store.setAlbum, Ref.get?_modify_self, here, Option.map_some]
  | _ => cases selected

/-- After the step the names and the photos are as before, and the album has this value. -/
structure ComesTo (s : Session) (st : Step) (name : String) (r : Ref StoredAlbum) (a : Album)
    (reply : Data) : Prop where
  names : (s.step st).1.names = s.names
  photos : (s.step st).1.store.photos = s.store.photos
  shows_album : (s.step st).1.Shows name r a
  replied : (s.step st).2 = .ok reply

theorem comesTo_of_change {stored new : StoredAlbum} {action : Action} {reply : Data}
    (found : s.album name = .ok (r, stored))
    (performed : s.perform action = .ok (s.change (s.store.setAlbum r new) reply)) :
    s.ComesTo ⟨action, none⟩ name r (s.store.albumOf new) reply := by
  have stepped : s.step ⟨action, none⟩ = (⟨s.store.setAlbum r new, s.names, s.settings, s.clock + 1⟩,
      .ok reply) := by
    rw [step, performed]
    rfl
  constructor
  · rw [stepped]
  · rw [stepped]
    rfl
  · rw [stepped]
    exact ⟨new, album_of_replaced found rfl rfl, rfl⟩
  · rw [stepped]

theorem comesTo_of_answer {stored : StoredAlbum} {action : Action} {reply : Data}
    (found : s.album name = .ok (r, stored))
    (performed : s.perform action = .ok (s.answer reply)) :
    s.ComesTo ⟨action, none⟩ name r (s.store.albumOf stored) reply := by
  have stepped : s.step ⟨action, none⟩ = (⟨s.store, s.names, s.settings, s.clock + 1⟩,
      .ok reply) := by
    rw [step, performed]
    rfl
  constructor
  · rw [stepped]
  · rw [stepped]
  · rw [stepped]
    exact ⟨stored, found, rfl⟩
  · rw [stepped]

theorem comesTo_remove {stored : StoredAlbum} (found : s.album name = .ok (r, stored))
    {choice : PhotoChoice} {id : PhotoId} (chosen : s.chosenId choice = .ok id) :
    s.ComesTo ⟨.onAlbum name (.remove choice), none⟩ name r
      (((s.store.albumOf stored).remove? id).getD (s.store.albumOf stored))
      (.bool ((s.store.albumOf stored).remove? id).isSome) := by
  rw [← Store.map_albumOf_withoutPhoto?]
  cases removed : s.store.withoutPhoto? stored id with
  | some less =>
    have performed : s.perform (.onAlbum name (.remove choice)) =
        .ok (s.change (s.store.setAlbum r less) (.bool true)) := by
      simp only [perform_onAlbum found, onAlbum, chosen, removed, bind, Except.bind]
      rfl
    exact comesTo_of_change found performed
  | none =>
    refine comesTo_of_answer found ?_
    simp only [perform_onAlbum found, onAlbum, chosen, removed, bind, Except.bind]
    rfl

/-- A step that calls on an album leads to the album after the call, and gives its answer. -/
theorem comesTo_after (shows_album : s.Shows name r a) {action : AlbumAction} {call : PhotoCall}
    (calls : s.Calls action call) :
    s.ComesTo ⟨.onAlbum name action, none⟩ name r (a.after call)
      (.ofOption .bool (a.answer call)) := by
  obtain ⟨stored, found, rfl⟩ := shows_album
  cases calls with
  | @insert photo p hp =>
    obtain ⟨ref, named, here⟩ := exists_photoRef hp
    have longer : s.store.albumOf { stored with photos := stored.photos ++ [ref] } =
        (s.store.albumOf stored).after (.add p) := by
      simp [Store.albumOf, Store.photosOf, Album.after, Album.add, here]
    rw [← longer]
    refine comesTo_of_change found ?_
    simp only [perform_onAlbum found, onAlbum, named, bind, Except.bind]
    rfl
  | @removeNamed photo p hp =>
    have chosen : s.chosenId (.named photo) = .ok p.id := by rw [chosenId, hp, Except.map]
    exact comesTo_remove found chosen
  | removeWithId id => exact comesTo_remove found rfl

/-- Steps that call on one album lead to the album after these calls, and give their answers. -/
theorem run_onAlbum (shows_album : s.Shows name r a) {actions : List AlbumAction}
    {calls : List PhotoCall} (match_up : List.Forall₂ s.Calls actions calls) :
    (s.run (actions.map fun action => ⟨.onAlbum name action, none⟩)).1.Shows name r
        (a.afterAll calls) ∧
      (s.run (actions.map fun action => ⟨.onAlbum name action, none⟩)).2 =
        (a.log calls).map fun entry => .ok (.ofOption .bool entry.2) := by
  induction calls generalizing s a actions with
  | nil =>
    cases match_up
    exact ⟨shows_album, rfl⟩
  | cons call rest ih =>
    cases match_up with
    | @cons action _ actions _ first more =>
      have comes := comesTo_after shows_album first
      -- The step moved no name and no photo, so the other actions make the same calls after it.
      have more' : List.Forall₂ (s.step ⟨.onAlbum name action, none⟩).1.Calls actions rest :=
        more.imp fun _ _ calls => calls.congr comes.names comes.photos
      obtain ⟨shown, replies⟩ := ih comes.shows_album more'
      refine ⟨shown, ?_⟩
      simp only [List.map_cons, run, Album.log, comes.replied, replies]

/-- Choosing a photo to remove is choosing its identity. -/
theorem perform_removeNamed {photo id : String} {p : Photo} (found : s.photo photo = .ok p)
    (own : p.id = .given id) (name : String) :
    s.perform (.onAlbum name (.remove (.named photo))) =
      s.perform (.onAlbum name (.remove (.withId id))) := by
  have chosen : s.chosenId (.named photo) = s.chosenId (.withId id) := by
    rw [chosenId, found, Except.map, own]
    rfl
  simp only [perform, onAlbum, chosen]

end Session

/-- After any calls the photos of each identity are those at first, followed by those put in, without
the oldest ones, one for each of them that was taken out; all that is left is in order, and the sizes add
up. At any such album a call takes out the first photo of its identity, and fails only if there is none.
In a session, steps that make these calls on an album lead to the same photos and give the same answers,
and a photo to be removed can be named by its identity as well. -/
theorem album_calls_keep_queues (initial : Album) (calls : List PhotoCall) :
    initial.KeepsQueues calls ∧ (initial.afterAll calls).TakesFirst ∧
    (∀ (s : Session) (name : String) (r : Ref StoredAlbum) (actions : List AlbumAction),
      s.Shows name r initial → List.Forall₂ s.Calls actions calls →
      (s.run (actions.map fun action => ⟨.onAlbum name action, none⟩)).1.Shows name r
          (initial.afterAll calls) ∧
        (s.run (actions.map fun action => ⟨.onAlbum name action, none⟩)).2 =
          (initial.log calls).map fun entry => .ok (.ofOption .bool entry.2)) ∧
    ∀ (s : Session) (name photo id : String) (p : Photo),
      s.photo photo = .ok p → p.id = .given id →
      s.perform (.onAlbum name (.remove (.named photo))) =
        s.perform (.onAlbum name (.remove (.withId id))) :=
  ⟨initial.keepsQueues calls, (initial.afterAll calls).takesFirst,
    fun _ _ _ _ shows_album match_up => Session.run_onAlbum shows_album match_up,
    fun _ name _ _ _ found own => Session.perform_removeNamed found own name⟩

end PhotoSearch
