import PhotoSearch.Catalog.Library
import PhotoSearch.Catalog.Outcome
import PhotoSearch.Query.Basic
import PhotoSearch.Record.Checked
import PhotoSearch.Time.Reading

/-!
Reading records from data. Everything is checked, in the order of the fields and of the items, and
all issues come together. Fields that a record does not have are passed over. Numbers that are given
as texts are left out: where types are coerced, such texts are read as numbers, but here they are
refused like any other text.
-/

namespace PhotoSearch

/-- A way to read a value from the data found at a place. -/
abbrev Reading (α : Type) := Place → Data → Checked α

namespace Reading

variable {α β : Type}

def issue (kind : IssueKind) (p : Place) : Checked α := .bad [⟨kind, p.path⟩]

def string : Reading String
  | _, .str s => .good s
  | p, _ => issue .notString p

def nullable (read : Reading α) : Reading (Option α)
  | _, .null => .good none
  | p, d => some <$> read p d

/-- Items from the one numbered `i` on, of data or of something else that can be checked. -/
def items (read : Place → β → Checked α) (p : Place) : Nat → List β → Checked (List α)
  | _, [] => .good []
  | i, d :: ds => List.cons <$> read (p.index i) d <*> items read p (i + 1) ds

def list (read : Reading α) : Reading (List α)
  | p, .list ds => items read p 0 ds
  | p, _ => issue .notList p

/-- A record, read from its fields. -/
def record (read : Place → List (String × Data) → Checked α) : Reading α
  | p, .object fields => read p fields
  | p, _ => issue .notRecord p

def required (name : String) (read : Reading α) (p : Place) (fields : List (String × Data)) :
    Checked α :=
  match Data.lookup name fields with
  | some d => read (p.field name) d
  | none => issue .missing (p.field name)

def defaulted (name : String) (read : Reading α) (default : α) (p : Place)
    (fields : List (String × Data)) : Checked α :=
  match Data.lookup name fields with
  | some d => read (p.field name) d
  | none => .good default

/-- One of a few texts, each with what it means. -/
def literal (meanings : List (String × α)) : Reading α
  | p, .str s =>
    match meanings.find? fun m => m.1 == s with
    | some m => .good m.2
    | none => issue .wrongLiteral p
  | p, _ => issue .wrongLiteral p

/-- Truth values count as 0 and 1. Texts that spell a number are left out, and so are decimals
without a fraction, which coercion would turn into integers; neither is accepted here. -/
def integer : Reading Int
  | _, .int n => .good n
  | _, .bool b => .good (if b then 1 else 0)
  | p, .decimal _ _ => issue .brokenInteger p
  | p, .str _ => issue .unreadableInteger p
  | p, _ => issue .notInteger p

def timestampFault (p : Place) : Except TimestampFault Timestamp → Checked Timestamp
  | .ok t => .good t
  | .error .malformed => issue .malformedTimestamp p
  | .error .outOfRange => issue .timestampOutOfRange p
  | .error .noNumber => issue .notTimestamp p

def timestamp : Reading Timestamp
  | p, .str s => timestampFault p (Timestamp.ofText s)
  | p, .int n => timestampFault p (Timestamp.ofUnix n)
  | p, .decimal mantissa places => timestampFault p (Timestamp.ofUnixDecimal mantissa places)
  | p, _ => issue .notTimestamp p

def token : Reading String
  | p, .str s =>
    match tokenFault? s with
    | none => .good s
    | some .empty => issue .emptyToken p
    | some .blank => issue .blankToken p
  | p, _ => issue .notString p

/-- A list of two stands for the key and the value. -/
def tagFields : Data → Data
  | .list [key, value] => .object [("key", key), ("value", value)]
  | d => d

def tag (p : Place) (d : Data) : Checked Tag :=
  record (fun p fields => Tag.mk <$> required "key" token p fields <*>
    required "value" token p fields) p (tagFields d)

def tagSet (p : Place) (d : Data) : Checked TagSet := TagSet.mk <$> list tag p d

def photo : Reading Photo := record fun p fields =>
  Photo.mk <$> defaulted "id" (fun p d => PhotoId.given <$> string p d) (.unnamed p) p fields <*>
    required "timestamp" timestamp p fields <*>
    defaulted "tags" tagSet TagSet.empty p fields <*>
    defaulted "path" (nullable string) none p fields <*>
    defaulted "caption" (nullable string) none p fields

def albumName : Reading String
  | p, .str s =>
    match PhotoSearch.albumName s with
    | .ok name => .good name
    | .error .emptyName => issue .emptyAlbumName p
  | p, _ => issue .notString p

def album : Reading Album := record fun p fields =>
  Album.mk <$> required "name" albumName p fields <*>
    defaulted "photos" (list photo) [] p fields

def library : Reading Library := record fun p fields =>
  Library.mk <$> required "owner" string p fields <*>
    defaulted "albums" (list album) [] p fields

def typedDay : Reading TypedDay := record fun p fields =>
  TypedDay.mk <$> required "month" integer p fields <*> required "day" integer p fields <*>
    required "year" integer p fields

/-- The word that names the kind of a query, which may be left out. -/
def kindWord (word : String) (p : Place) (fields : List (String × Data)) : Checked Unit :=
  defaulted "kind" (literal [(word, ())]) () p fields

def dayRange : Reading DayRange := record fun p fields =>
  (fun _ => DayRange.mk) <$> kindWord "date_range" p fields <*>
    required "text" string p fields <*> required "start" typedDay p fields <*>
    required "end" typedDay p fields

def term : Reading TagTerm := record fun p fields =>
  (fun _ => TagTerm.mk) <$> kindWord "single_tag" p fields <*>
    required "key" string p fields <*> required "value" string p fields

def connective : Reading Connective :=
  literal [(Connective.and.word, .and), (Connective.or.word, .or)]

def formula : Reading TagFormula := record fun p fields =>
  (fun _ => TagFormula.combined) <$> kindWord "binary_tag" p fields <*>
    required "left" term p fields <*> required "right" term p fields <*>
    required "op" connective p fields

def errorNote : Reading ErrorNote := record fun p fields =>
  ErrorNote.mk <$> required "code" string p fields <*> required "message" string p fields

def outcome : Reading Outcome := record fun p fields =>
  Outcome.mk <$> required "query" string p fields <*>
    defaulted "kind" (nullable string) none p fields <*>
    defaulted "photos" (list photo) [] p fields <*>
    defaulted "error" (nullable errorNote) none p fields

end Reading

end PhotoSearch
