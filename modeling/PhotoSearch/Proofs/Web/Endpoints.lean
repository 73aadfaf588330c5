import PhotoSearch.Proofs.Catalog.FreeName
import PhotoSearch.Proofs.Search.Outcome
import PhotoSearch.Web.App

/-!
The responses of the web application beside each other. Reading a query, searching photos for it and
searching a library for it refuse the same queries with the same detail, and a body that amounts to a
call is answered by what was asked for or by such a refusal, and in no other way.
-/

namespace PhotoSearch

/-- The field of this name, if the data has fields and this is one of them. -/
def Data.field? (d : Data) (name : String) : Option Data :=
  match d with
  | .object fields => lookup name fields
  | _ => none

/-- The code that is told for an error is that of its class. -/
theorem QueryError.code_toData {e : QueryError} {c : ErrorClass} (h : e.errorClass = c) :
    (ErrorNote.ofQueryError e).toData.field? "code" = some (.str c.code) := by
  rw [ErrorNote.ofQueryError_of_errorClass h]
  rfl

namespace Web

namespace Response

/-- A query is refused with this detail. -/
def Refuses (r : Response) (detail : Data) : Prop :=
  r.status = 400 ∧ r.body.field? "detail" = some detail

theorem refuses_badQuery (e : ErrorNote) (detail : Data) :
    (badQuery e).Refuses detail ↔ detail = e.toData := by
  have told : (badQuery e).body.field? "detail" = some e.toData := rfl
  rw [Refuses, told]
  simp [badQuery, refusal, eq_comm]

theorem not_refuses (body detail : Data) : ¬ (Response.mk 200 body).Refuses detail := by
  rintro ⟨status, -⟩
  cases status

/-- All that is answered to a call. -/
def Answers (r : Response) : Prop := r.status = 200 ∨ r.status = 400

end Response

namespace App

variable (app : App) {s : String} {photos : List Photo} {l : Library}

/-! ### The endpoints, one at a time -/

theorem serve_reading_of_error {e : QueryError} (h : Query.read (.str s) = .error e) :
    app.serve (.reading s) = .badQuery (.ofQueryError e) := by
  simp only [serve, h]

theorem serve_reading_of_ok {q : Query} (h : Query.read (.str s) = .ok q) :
    app.serve (.reading s) = ⟨200, .object [("kind", .str q.kind), ("query", q.toData)]⟩ := by
  simp only [serve, h]

section Failed

variable {kind : Option String} {e : ErrorNote}

theorem serve_search_of_failed (h : search app.mode (.str s) photos = .ok ⟨s, kind, [], some e⟩) :
    app.serve (.search s photos) = .badQuery e := by
  simp only [serve, h, respond]

theorem serve_librarySearch_of_failed
    (h : search app.mode (.str s) l.photos = .ok ⟨s, kind, [], some e⟩) :
    app.serve (.librarySearch s l) = .badQuery e := by
  simp only [serve, h, respond]

end Failed

section Found

variable {kind : Option String} {found : List Photo}

theorem serve_search_of_found (h : search app.mode (.str s) photos = .ok ⟨s, kind, found, none⟩) :
    app.serve (.search s photos) =
      ⟨200, .object [("kind", .ofOptionalString kind), ("results", Photo.listToData found)]⟩ := by
  simp only [serve, h, respond]

/-- The name for the album is free and can be borne, so that making the album does not fail. -/
theorem serve_librarySearch_of_found
    (h : search app.mode (.str s) l.photos = .ok ⟨s, kind, found, none⟩) :
    app.serve (.librarySearch s l) =
      ⟨200, .object [("kind", .ofOptionalString kind),
        ("album", (Album.mk (l.freeName app.settings.resultsName none) found).toData)]⟩ := by
  have made := Library.albumFor_eq_ok app.settings.resultsName_ne_empty l found none
  simp only [serve, h, respond, made]

end Found

/-! ### The endpoints compared -/

/-- What reading refuses, searching refuses as malformed, and nothing else. -/
theorem reading_refuses_iff (s : String) (photos : List Photo) (detail : Data) :
    (app.serve (.reading s)).Refuses detail ↔
      (app.serve (.search s photos)).Refuses detail ∧
        detail.field? "code" = some (.str "malformed_query") := by
  rcases search_text_cases app.mode s photos with
    ⟨e, hq, malformed, ho⟩ | ⟨q, found, hq, -, ho⟩ | ⟨r, e, hq, -, badRange, ho⟩
  · have code : (ErrorNote.ofQueryError e).toData.field? "code" =
        some (.str "malformed_query") := QueryError.code_toData malformed
    rw [app.serve_reading_of_error hq, app.serve_search_of_failed ho, Response.refuses_badQuery]
    constructor
    · rintro rfl
      exact ⟨rfl, code⟩
    · exact fun h => h.1
  · rw [app.serve_reading_of_ok hq, app.serve_search_of_found ho]
    simp only [Response.not_refuses, false_and]
  · have code : (ErrorNote.ofQueryError e).toData.field? "code" = some (.str "invalid_range") :=
      QueryError.code_toData badRange
    rw [app.serve_reading_of_ok hq, app.serve_search_of_failed ho, Response.refuses_badQuery]
    constructor
    · exact fun h => absurd h (Response.not_refuses _ _)
    · rintro ⟨rfl, other⟩
      rw [code] at other
      simp at other

/-- What is read as a query of some kind is searched for under that kind, or it is a range of days
and refused as a bad one. -/
theorem search_of_reading (s : String) (photos : List Photo)
    (h : (app.serve (.reading s)).status = 200) :
    ∃ kind, (app.serve (.reading s)).body.field? "kind" = some (.str kind) ∧
      ((app.serve (.search s photos)).status = 200 ∧
          (app.serve (.search s photos)).body.field? "kind" = some (.str kind) ∨
        kind = "date_range" ∧ ∃ detail, (app.serve (.search s photos)).Refuses detail ∧
          detail.field? "code" = some (.str "invalid_range")) := by
  rcases search_text_cases app.mode s photos with
    ⟨e, hq, malformed, ho⟩ | ⟨q, found, hq, -, ho⟩ | ⟨r, e, hq, -, badRange, ho⟩
  · rw [app.serve_reading_of_error hq] at h
    cases h
  · rw [app.serve_reading_of_ok hq, app.serve_search_of_found ho]
    exact ⟨q.kind, rfl, .inl ⟨rfl, rfl⟩⟩
  · rw [app.serve_reading_of_ok hq, app.serve_search_of_failed ho]
    exact ⟨"date_range", rfl,
      .inr ⟨rfl, _, (Response.refuses_badQuery _ _).2 rfl, QueryError.code_toData badRange⟩⟩

/-- The album that a library's search is answered with holds the results, under a name that no album
of the library has. -/
theorem librarySearch_eq_search (s : String) (l : Library) :
    (app.serve (.librarySearch s l)).status = (app.serve (.search s l.photos)).status ∧
      (∀ name ∈ ["detail", "kind"], (app.serve (.librarySearch s l)).body.field? name =
        (app.serve (.search s l.photos)).body.field? name) ∧
      ((app.serve (.search s l.photos)).status = 200 → ∃ name results,
        (app.serve (.search s l.photos)).body.field? "results" = some results ∧
        (app.serve (.librarySearch s l)).body.field? "album" =
          some (.object [("name", .str name), ("photos", results)]) ∧
        name ≠ "" ∧ name ∉ l.albums.map Album.name) := by
  rcases search_text_cases app.mode s l.photos with
    ⟨e, -, -, ho⟩ | ⟨q, found, -, -, ho⟩ | ⟨r, e, -, -, -, ho⟩
  · rw [app.serve_librarySearch_of_failed ho, app.serve_search_of_failed ho]
    exact ⟨rfl, fun _ _ => rfl, fun h => nomatch h⟩
  · rw [app.serve_librarySearch_of_found ho, app.serve_search_of_found ho]
    refine ⟨rfl, ?_, fun _ => ⟨_, _, rfl, rfl, ?_, ?_⟩⟩
    · simp only [List.forall_mem_cons]
      exact ⟨rfl, rfl, fun _ h => nomatch h⟩
    · exact Library.freeName_ne_empty app.settings.resultsName_ne_empty l none
    · exact l.freeName_notMem app.settings.resultsName none
  · rw [app.serve_librarySearch_of_failed ho, app.serve_search_of_failed ho]
    exact ⟨rfl, fun _ _ => rfl, fun h => nomatch h⟩

/-- No call is answered in any other way than by what it asks for or by refusing its query. -/
theorem serve_answers (call : Call) : (app.serve call).Answers := by
  have searched : ∀ s photos, (app.serve (.search s photos)).Answers := by
    intro s photos
    rcases search_text_cases app.mode s photos with
      ⟨e, -, -, ho⟩ | ⟨q, found, -, -, ho⟩ | ⟨r, e, -, -, -, ho⟩
    · rw [app.serve_search_of_failed ho]
      exact .inr rfl
    · rw [app.serve_search_of_found ho]
      exact .inl rfl
    · rw [app.serve_search_of_failed ho]
      exact .inr rfl
  cases call with
  | health => exact .inl rfl
  | reading s =>
    cases hq : Query.read (.str s) with
    | error e =>
      rw [app.serve_reading_of_error hq]
      exact .inr rfl
    | ok q =>
      rw [app.serve_reading_of_ok hq]
      exact .inl rfl
  | search s photos => exact searched s photos
  | librarySearch s l =>
    rw [Response.Answers, (app.librarySearch_eq_search s l).1]
    exact searched s l.photos

end App

/-! ### Requests -/

/-- A request to a route, by its method and with a body that the route takes, amounts to a call. -/
theorem Call.ofRequest_of_route {r : Request} {route : Route} {call : Call}
    (place : r.place = route.path) (method : Text.upper r.method = route.method)
    (body : ofRoute r.body route = .good call) : ofRequest r = .ok call := by
  -- Not by `simp` or `unfold`, which would try to evaluate the place of the unknown request.
  delta ofRequest
  rw [place, Route.ofPath?_path]
  simp only [method, if_true, body]

theorem App.answer_of_ofRequest {r : Request} {call : Call} (h : Call.ofRequest r = .ok call)
    (app : App) : app.answer r = app.serve call := by
  delta App.answer
  rw [h]

example : Call.ofRequest
    ⟨"post", "/classify?x=1", some (.object [("query", .str "a=b"), ("other", .null)])⟩ =
      .ok (.reading "a=b") :=
  @Call.ofRequest_of_route _ .reading _ (by decide +kernel) (by decide +kernel) rfl

/-- The endpoints agree on every text, whatever photos and library come with it. Reading refuses a text
exactly where searching refuses it as malformed, with the same detail. A text that is read as a query
of some kind is searched for under that kind, or refused as a bad range if the kind is that of ranges.
Searching a library has the status, the detail and the kind of searching its photos, and its album
holds their results under a name that is not empty and that no album of the library has. A request
to a route with a body that the route takes is answered as the call that it amounts to, by what it asks
for or by refusing its query. -/
theorem endpoints_agree (app : App) (s : String) (photos : List Photo) (l : Library) :
    (∀ detail, (app.serve (.reading s)).Refuses detail ↔
        (app.serve (.search s photos)).Refuses detail ∧
          detail.field? "code" = some (.str "malformed_query")) ∧
      ((app.serve (.reading s)).status = 200 →
        ∃ kind, (app.serve (.reading s)).body.field? "kind" = some (.str kind) ∧
          ((app.serve (.search s photos)).status = 200 ∧
              (app.serve (.search s photos)).body.field? "kind" = some (.str kind) ∨
            kind = "date_range" ∧ ∃ detail, (app.serve (.search s photos)).Refuses detail ∧
              detail.field? "code" = some (.str "invalid_range"))) ∧
      ((app.serve (.librarySearch s l)).status = (app.serve (.search s l.photos)).status ∧
        (∀ name ∈ ["detail", "kind"], (app.serve (.librarySearch s l)).body.field? name =
          (app.serve (.search s l.photos)).body.field? name) ∧
        ((app.serve (.search s l.photos)).status = 200 → ∃ name results,
          (app.serve (.search s l.photos)).body.field? "results" = some results ∧
          (app.serve (.librarySearch s l)).body.field? "album" =
            some (.object [("name", .str name), ("photos", results)]) ∧
          name ≠ "" ∧ name ∉ l.albums.map Album.name)) ∧
      ∀ (r : Request) (route : Route) (call : Call), r.place = route.path →
        Text.upper r.method = route.method → Call.ofRoute r.body route = .good call →
        app.answer r = app.serve call ∧ (app.answer r).Answers := by
  refine ⟨app.reading_refuses_iff s photos, app.search_of_reading s photos,
    app.librarySearch_eq_search s l, fun r route call place method body => ?_⟩
  have answered := App.answer_of_ofRequest (Call.ofRequest_of_route place method body) app
  refine ⟨answered, ?_⟩
  rw [answered]
  exact app.serve_answers call

end Web

end PhotoSearch
