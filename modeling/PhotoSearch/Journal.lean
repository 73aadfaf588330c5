import PhotoSearch.Search

/-! The journal: what reading, evaluating and searching report as they go. -/

namespace PhotoSearch

inductive Severity where
  | debug
  | info
deriving DecidableEq

def Severity.name : Severity → String
  | debug => "DEBUG"
  | info => "INFO"

structure Entry where
  severity : Severity
  source : String
  message : String
deriving DecidableEq

def Timestamp.plainText (t : Timestamp) : String := t.date.text ++ " " ++ t.time.clockText

/-- Only a query that was read is reported. -/
def readJournal (raw : Data) : List Entry :=
  match Query.read raw with
  | .ok q =>
    [⟨.debug, "photo_album.search.classifier",
      "Classified " ++ raw.literal ++ " as " ++ q.kind⟩]
  | .error _ => []

namespace DayRange

def journal (r : DayRange) (mode : DateMode) (photos : List Photo) : List Entry :=
  match r.resolve mode with
  | .ok span =>
    [⟨.debug, "photo_album.search.date_range",
      "Date range " ++ span.start.plainText ++ ".." ++ span.finish.plainText ++ " matched " ++
        Text.decimal (photos.countP fun p => span.contains p.timestamp) ++ " photos"⟩]
  | .error _ => []

def journalRaw (raw : Data) (mode : DateMode) (photos : List Photo) : List Entry :=
  match read raw with
  | .ok r => r.journal mode photos
  | .error _ => []

end DayRange

def TagFormula.journal (f : TagFormula) (photos : List Photo) : List Entry :=
  match f.test with
  | .ok p =>
    [⟨.debug, "photo_album.search.tags",
      "Tag query " ++ f.kind ++ " matched " ++ Text.decimal (photos.countP p) ++ " photos"⟩]
  | .error _ => []

def Query.journal (q : Query) (mode : DateMode) (photos : List Photo) : List Entry :=
  match q with
  | dates r => r.journal mode photos
  | tags f => f.journal photos

/-- The report of a search once its outcome is known. -/
def Outcome.entry (o : Outcome) (searched : Nat) : Entry :=
  ⟨.info, "photo_album.search.engine",
    "Search " ++ Text.quoted o.query ++
      match o.error with
      | some e => " rejected (" ++ e.code ++ "): " ++ e.message
      | none =>
        " (" ++ o.kind.getD "None" ++ ") matched " ++ Text.decimal o.photos.length ++ " of " ++
          Text.decimal searched ++ " photos"⟩

/-- The reports of reading, of evaluating what was read, and of the outcome. -/
def searchJournal (mode : DateMode) (raw : Data) (photos : List Photo) : List Entry :=
  readJournal raw ++
    (match Query.read raw with
      | .ok q => q.journal mode photos
      | .error _ => []) ++
    match search mode raw photos with
    | .ok o => [o.entry photos.length]
    | .error _ => []

end PhotoSearch
