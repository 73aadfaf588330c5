import PhotoSearch.Catalog.Photo
import PhotoSearch.Query.Span

/-! Which photos a query finds. -/

namespace PhotoSearch

def partFault? (part : TagPart) (text : String) : Option QueryError :=
  (tokenFault? text).map fun
    | .empty => .emptyPart part
    | .blank => .blankInPart part text

theorem partFault?_eq_none_iff (part : TagPart) (text : String) :
    partFault? part text = none ↔ IsToken text := by
  simp [partFault?, tokenFault?_eq_none_iff]

namespace TagTerm

/-- The fault of the key, or else that of the value. -/
def fault? (t : TagTerm) : Option QueryError :=
  (partFault? .key t.key).or (partFault? .value t.value)

theorem fault?_eq_none_iff (t : TagTerm) :
    t.fault? = none ↔ IsToken t.key ∧ IsToken t.value := by
  simp [fault?, partFault?_eq_none_iff]

/-- Key and value have to come from one and the same tag. -/
def holds (t : TagTerm) (photo : Photo) : Bool := photo.tags.contains t.key t.value

end TagTerm

namespace TagFormula

/-- The fault of the first term that has one. -/
def fault? (f : TagFormula) : Option QueryError := f.terms.findSome? TagTerm.fault?

def holds (f : TagFormula) (photo : Photo) : Bool :=
  match f with
  | single t => t.holds photo
  | combined left right op => op.apply (left.holds photo) (right.holds photo)

/-- The condition that a formula puts on photos, unless one of its terms is at fault. -/
def test (f : TagFormula) : Except Fault (Photo → Bool) :=
  match f.fault? with
  | some e => .error (.query e)
  | none => .ok f.holds

def evaluate (f : TagFormula) (photos : List Photo) : Except Fault (List Photo) :=
  f.test.map fun p => photos.filter p

end TagFormula

namespace DayRange

/-- The condition that a range puts on photos, if its days can be resolved. -/
def test (r : DayRange) (mode : DateMode) : Except Fault (Photo → Bool) :=
  (r.resolve mode).map fun span photo => span.contains photo.timestamp

def evaluate (r : DayRange) (mode : DateMode) (photos : List Photo) : Except Fault (List Photo) :=
  (r.test mode).map fun p => photos.filter p

/-- The photos in a range of days that is given as raw input. -/
def evaluateRaw (raw : Data) (mode : DateMode) (photos : List Photo) : Except Fault (List Photo) :=
  match read raw with
  | .ok r => r.evaluate mode photos
  | .error e => .error (.query e)

end DayRange

namespace Query

def test (q : Query) (mode : DateMode) : Except Fault (Photo → Bool) :=
  match q with
  | dates r => r.test mode
  | tags f => f.test

def evaluate (q : Query) (mode : DateMode) (photos : List Photo) : Except Fault (List Photo) :=
  (q.test mode).map fun p => photos.filter p

theorem dates_evaluate (r : DayRange) (mode : DateMode) (photos : List Photo) :
    (dates r).evaluate mode photos = r.evaluate mode photos := rfl

theorem tags_evaluate (f : TagFormula) (mode : DateMode) (photos : List Photo) :
    (tags f).evaluate mode photos = f.evaluate photos := rfl

end Query

end PhotoSearch
