import PhotoSearch.Record.Kind
import PhotoSearch.Web.Target

/-!
Requests of the web interface, and the calls that they amount to. A request that amounts to none is
refused with a response.
-/

namespace PhotoSearch.Web

/-- A request. Its method is meant in letters of either case. -/
structure Request where
  method : String
  target : String
  body : Option Data

def Request.place (r : Request) : String :=
  String.ofList (Target.ofChars r.target.toList).place

structure Response where
  status : Nat
  body : Data

namespace Response

/-- A response that tells what went wrong. -/
def refusal (status : Nat) (detail : Data) : Response := ⟨status, .object [("detail", detail)]⟩

def notFound : Response := refusal 404 (.str "Not Found")

def methodNotAllowed : Response := refusal 405 (.str "Method Not Allowed")

/-- The response to a fault that no request is to blame for. -/
def internalError : Response := refusal 500 (.str "Internal Server Error")

def badQuery (e : ErrorNote) : Response := refusal 400 e.toData

/-- Issues with the body; data that should have been a record has a code of its own here. -/
def unprocessable (issues : List Issue) : Response :=
  refusal 422 (.list (issues.map (Issue.toData "model_attributes_type" [.field "body"])))

end Response

inductive Route where
  | health
  | reading
  | search
  | librarySearch
deriving DecidableEq

namespace Route

def all : List Route := [health, reading, search, librarySearch]

def path : Route → String
  | health => "/health"
  | reading => "/classify"
  | search => "/search"
  | librarySearch => "/library/search"

def method : Route → String
  | health => "GET"
  | reading | search | librarySearch => "POST"

def ofPath? (path : String) : Option Route := all.find? fun r => r.path == path

@[simp] theorem ofPath?_path (r : Route) : ofPath? r.path = some r := by cases r <;> decide

end Route

inductive Call where
  | health
  | reading (query : String)
  | search (query : String) (photos : List Photo)
  | librarySearch (query : String) (library : Library)

namespace Call

def readQuery (p : Place) (fields : List (String × Data)) : Checked String :=
  Reading.required "query" Reading.string p fields

/-- A body, read by way of its fields; one that is absent or null is missing. -/
def ofBody (read : Place → List (String × Data) → Checked Call) (body : Option Data) :
    Checked Call :=
  match body with
  | none | some .null => Reading.issue .missing (.root 0)
  | some d => Reading.record read (.root 0) d

def ofRoute (body : Option Data) : Route → Checked Call
  | .health => .good health
  | .reading => ofBody (fun p fields => reading <$> readQuery p fields) body
  | .search => ofBody (fun p fields => search <$> readQuery p fields <*>
      Reading.defaulted "photos" (Reading.list Reading.photo) [] p fields) body
  | .librarySearch => ofBody (fun p fields => librarySearch <$> readQuery p fields <*>
      Reading.required "library" Reading.library p fields) body

/-- The call that a request amounts to. The place is looked at first, then the method, and then the
body. -/
def ofRequest (r : Request) : Except Response Call :=
  match Route.ofPath? r.place with
  | none => .error .notFound
  | some route =>
    if Text.upper r.method = route.method then
      match ofRoute r.body route with
      | .good call => .ok call
      | .bad issues => .error (.unprocessable issues)
    else .error .methodNotAllowed

end Call

end PhotoSearch.Web
