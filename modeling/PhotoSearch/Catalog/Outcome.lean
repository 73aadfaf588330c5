import PhotoSearch.Catalog.Photo
import PhotoSearch.Query.Error

/-! Outcomes of searches, in which a failure is a value. -/

namespace PhotoSearch

structure ErrorNote where
  code : String
  message : String
deriving DecidableEq

def ErrorNote.ofQueryError (e : QueryError) : ErrorNote := ⟨e.code, e.message⟩

theorem ErrorNote.ofQueryError_of_errorClass {e : QueryError} {c : ErrorClass}
    (h : e.errorClass = c) : ofQueryError e = ⟨c.code, e.message⟩ := by
  rw [ofQueryError, QueryError.code, h]

/-- What was searched for, what kind of query it was, and what was found or went wrong. -/
structure Outcome where
  query : String
  kind : Option String
  photos : List Photo
  error : Option ErrorNote
deriving DecidableEq

/-- An error as it is raised: its class and its message. -/
structure Raised where
  errorClass : ErrorClass
  message : String
deriving DecidableEq

namespace Outcome

def ok (o : Outcome) : Bool := o.error.isNone

/-- What an outcome raises when its error is no longer kept as a value. -/
def raised (o : Outcome) : Option Raised :=
  o.error.map fun e => ⟨ErrorClass.ofCode e.code, e.message⟩

end Outcome

theorem raised_ofQueryError (query : String) (kind : Option String) (photos : List Photo)
    (e : QueryError) :
    (Outcome.mk query kind photos (some (.ofQueryError e))).raised =
      some ⟨e.errorClass, e.message⟩ := by
  simp [Outcome.raised, ErrorNote.ofQueryError, QueryError.code]

end PhotoSearch
