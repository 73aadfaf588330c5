import PhotoSearch.Catalog.Place
import PhotoSearch.Data

/-! Results of checking data: a value, or all that is wrong, each issue with its place. -/

namespace PhotoSearch

inductive IssueKind where
  | notRecord
  | missing
  | notString
  | notList
  | wrongLiteral
  | notInteger
  | unreadableInteger
  | brokenInteger
  | notTimestamp
  | malformedTimestamp
  | timestampOutOfRange
  | emptyToken
  | blankToken
  | emptyAlbumName
deriving DecidableEq

namespace IssueKind

/-- The code of an issue, with the one given for data that should have been a record. -/
def code (recordCode : String) : IssueKind → String
  | notRecord => recordCode
  | missing => "missing"
  | notString => "string_type"
  | notList => "list_type"
  | wrongLiteral => "literal_error"
  | notInteger => "int_type"
  | unreadableInteger => "int_parsing"
  | brokenInteger => "int_from_float"
  | notTimestamp => "datetime_type"
  | malformedTimestamp => "datetime_from_date_parsing"
  | timestampOutOfRange => "datetime_parsing"
  | emptyToken | blankToken | emptyAlbumName => "value_error"

/-- What an issue says beyond its code. -/
def detail? : IssueKind → Option String
  | emptyToken => some "Value error, Tag keys and values cannot be empty"
  | blankToken => some "Value error, Tag keys and values cannot contain whitespace"
  | emptyAlbumName => some "Value error, Album name cannot be empty"
  | _ => none

end IssueKind

structure Issue where
  kind : IssueKind
  path : List PathStep
deriving DecidableEq

def PathStep.toData : PathStep → Data
  | field name => .str name
  | index i => .int i

/-- An issue as data. Its path is counted from the place that `lead` leads to. -/
def Issue.toData (recordCode : String) (lead : List PathStep) (i : Issue) : Data :=
  .object ([("type", .str (i.kind.code recordCode)),
    ("loc", .list ((lead ++ i.path).map PathStep.toData))] ++
    (i.kind.detail?.map fun text => ("msg", Data.str text)).toList)

inductive Checked (α : Type) where
  | good (a : α)
  | bad (issues : List Issue)

namespace Checked

variable {α β : Type}

def map (f : α → β) : Checked α → Checked β
  | good a => good (f a)
  | bad issues => bad issues

/-- Applies a checked function to a checked argument; the issues of both come together. -/
def ap : Checked (α → β) → Checked α → Checked β
  | good f, x => x.map f
  | bad issues, good _ => bad issues
  | bad issues, bad more => bad (issues ++ more)

instance : Functor Checked where
  map := map

instance : Seq Checked where
  seq f x := ap f (x ())

instance : Pure Checked where
  pure := good

@[simp] theorem map_good (f : α → β) (a : α) : f <$> good a = good (f a) := rfl

@[simp] theorem good_seq (f : α → β) (x : Checked α) : (good f <*> x) = f <$> x := rfl

theorem map_eq_good_iff {f : α → β} {x : Checked α} {b : β} :
    f <$> x = good b ↔ ∃ a, x = good a ∧ f a = b := by
  cases x with
  | good a => simp
  | bad issues => constructor <;> intro h <;> simp [Functor.map, map] at h

theorem seq_eq_good_iff {f : Checked (α → β)} {x : Checked α} {b : β} :
    (f <*> x) = good b ↔ ∃ g a, f = good g ∧ x = good a ∧ g a = b := by
  cases f with
  | good g => simp [map_eq_good_iff]
  | bad issues => cases x <;> constructor <;> intro h <;> simp [Seq.seq, ap] at h

def toExcept : Checked α → Except (List Issue) α
  | good a => .ok a
  | bad issues => .error issues

end Checked

end PhotoSearch
