import PhotoSearch.Catalog.Library
import PhotoSearch.Journal
import PhotoSearch.Logging
import PhotoSearch.Web.Call

/-! The web application: calls in, responses out. -/

namespace PhotoSearch.Web

/-- The application as it was started: its way to read typed days, and the settings that it looks
at again and again. -/
structure App where
  mode : DateMode
  settings : Settings

namespace App

/-- Starts the application, for which it must be possible to keep the log. -/
def start (s : Settings) : Except LogFault App := do
  let _ ← LogConfig.ofSettings s LogConfig.usualLevel
  return ⟨s.dateMode, s⟩

/-- The response to a search: that of its error, or what `found` makes of the outcome. -/
def respond (result : Except Overflow Outcome) (found : Outcome → Response) : Response :=
  match result with
  | .ok o =>
    match o.error with
    | some e => .badQuery e
    | none => found o
  | .error _ => .internalError

/-- Serves a call. What is found in a library comes as an album under a name that is free in it. -/
def serve (app : App) : Call → Response
  | .health => ⟨200, .object [("status", .str "ok")]⟩
  | .reading query =>
    match Query.read (.str query) with
    | .ok q => ⟨200, .object [("kind", .str q.kind), ("query", q.toData)]⟩
    | .error e => .badQuery (.ofQueryError e)
  | .search query photos => respond (search app.mode (.str query) photos) fun o =>
      ⟨200, .object [("kind", .ofOptionalString o.kind), ("results", Photo.listToData o.photos)]⟩
  | .librarySearch query l => respond (search app.mode (.str query) l.photos) fun o =>
      match l.albumFor app.settings.resultsName o.photos none with
      | .ok a => ⟨200, .object [("kind", .ofOptionalString o.kind), ("album", a.toData)]⟩
      | .error _ => .internalError

def answer (app : App) (r : Request) : Response :=
  match Call.ofRequest r with
  | .ok call => app.serve call
  | .error refusal => refusal

/-- What is reported while a call is served. -/
def callJournal (app : App) : Call → List Entry
  | .health => []
  | .reading query => readJournal (.str query)
  | .search query photos => searchJournal app.mode (.str query) photos
  | .librarySearch query l => searchJournal app.mode (.str query) l.photos

def journal (app : App) (r : Request) : List Entry :=
  match Call.ofRequest r with
  | .ok call => app.callJournal call
  | .error _ => []

end App

end PhotoSearch.Web
