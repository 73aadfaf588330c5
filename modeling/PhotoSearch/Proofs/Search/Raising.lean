import PhotoSearch.Proofs.Search.RefusedFormulas

/-!
Failing by error and failing by value. Reading a query and then evaluating it fails with an error; a
search keeps that error in its outcome as a code and a message, and the outcome raises the same class
and the same message again.
-/

namespace PhotoSearch

/-- Evaluates what was read. An error of reading is the error of the whole. -/
def evaluateRead (mode : DateMode) (read : Except QueryError Query) (photos : List Photo) :
    Except Fault (List Photo) := do
  (← read.mapError .query).evaluate mode photos

@[simp] theorem evaluateRead_error (mode : DateMode) (e : QueryError) (photos : List Photo) :
    evaluateRead mode (.error e) photos = .error (.query e) := rfl

@[simp] theorem evaluateRead_ok (mode : DateMode) (q : Query) (photos : List Photo) :
    evaluateRead mode (.ok q) photos = q.evaluate mode photos := rfl

theorem QueryError.errorClass_ne_unknown (e : QueryError) : e.errorClass ≠ .unknown := by
  cases e <;> simp [errorClass]

namespace Outcome

/-- The outcome of a success: the photos that were found, and nothing to raise. -/
structure Succeeds (o : Outcome) (found : List Photo) : Prop where
  ok : o.ok = true
  photos : o.photos = found
  raised : o.raised = none

/-- The outcome of a failure: no photos, and the error to raise again, its class one of the three
that query errors have. -/
structure FailsWith (o : Outcome) (e : QueryError) : Prop where
  ok : o.ok = false
  photos : o.photos = []
  raised : o.raised = some ⟨e.errorClass, e.message⟩
  known : e.errorClass ≠ .unknown

theorem succeeds_mk (text : String) (kind : Option String) (found : List Photo) :
    Succeeds ⟨text, kind, found, none⟩ found := ⟨rfl, rfl, rfl⟩

/-- The code of an error leads back to its class, so nothing is lost on the way. -/
theorem failsWith_mk (text : String) (kind : Option String) (e : QueryError) :
    FailsWith ⟨text, kind, [], some (.ofQueryError e)⟩ e where
  ok := rfl
  photos := rfl
  raised := raised_ofQueryError text kind [] e
  known := e.errorClass_ne_unknown

end Outcome

/-- What a search comes to, beside what evaluating comes to: a success is an outcome without an error,
an error of the query is the error of an outcome, and an overflow is passed on. The outcome has the
kind of the query, unless nothing was read. -/
inductive SearchAgrees (text : String) (read : Except QueryError Query) :
    Except Fault (List Photo) → Except Overflow Outcome → Prop
  | found {q : Query} {photos : List Photo} {o : Outcome} (known : read = .ok q)
    (query : o.query = text) (kind : o.kind = some q.kind) (succeeds : o.Succeeds photos) :
    SearchAgrees text read (.ok photos) (.ok o)
  | failed {e : QueryError} {o : Outcome} (query : o.query = text)
    (kind : o.kind = read.toOption.map Query.kind) (fails : o.FailsWith e) :
    SearchAgrees text read (.error (.query e)) (.ok o)
  | overflow (o : Overflow) : SearchAgrees text read (.error (.overflow o)) (.error o)

theorem searchRead_agrees (mode : DateMode) (text : String) (read : Except QueryError Query)
    (photos : List Photo) :
    SearchAgrees text read (evaluateRead mode read photos) (searchRead mode text read photos) := by
  cases read with
  | error e => exact .failed rfl rfl (Outcome.failsWith_mk text none e)
  | ok q =>
    rw [evaluateRead_ok]
    cases evaluated : q.evaluate mode photos with
    | ok found =>
      rw [searchRead_of_evaluate evaluated]
      exact .found rfl rfl rfl (Outcome.succeeds_mk text (some q.kind) found)
    | error f =>
      cases f with
      | query e =>
        rw [searchRead_of_evaluate_error evaluated]
        exact .failed rfl rfl (Outcome.failsWith_mk text (some q.kind) e)
      | overflow o =>
        simp only [searchRead, evaluated]
        exact .overflow o

/-- What was read from a text never overflows, so it is found or fails as a query. -/
theorem evaluateRead_text_ne_overflow (mode : DateMode) (s : String) (photos : List Photo)
    (o : Overflow) : evaluateRead mode (Query.read (.str s)) photos ≠ .error (.overflow o) := by
  cases hq : Query.read (.str s) with
  | error e => simp
  | ok q =>
    intro overflows
    obtain ⟨r, e, -, same, -⟩ := (Query.read_str_eq_ok_iff.1 hq).error_of_evaluate overflows
    cases same

/-- A search for a text agrees with reading the text and evaluating what was read, and one of the two
comes about: the photos are found, or an error of the query is raised again by the outcome. The same
agreement holds for any query that stands in for what was read. A formula with a term that is no pair
of tokens is an error of its own class, whatever the photos. -/
theorem search_agrees_with_evaluation (mode : DateMode) (photos : List Photo) :
    (∀ s, SearchAgrees s (Query.read (.str s)) (evaluateRead mode (Query.read (.str s)) photos)
        (search mode (.str s) photos)) ∧
      (∀ s o, evaluateRead mode (Query.read (.str s)) photos ≠ .error (.overflow o)) ∧
      (∀ text q, SearchAgrees text (.ok q) (q.evaluate mode photos)
        (searchRead mode text (.ok q) photos)) ∧
      ∀ text f e, f.fault? = some e → e.errorClass = .badTerm ∧
        ∃ o, searchRead mode text (.ok (.tags f)) photos = .ok o ∧ o.FailsWith e := by
  refine ⟨fun s => ?_, fun s o => ?_, fun text q => ?_, fun text f e fault => ⟨?_, ?_⟩⟩
  · exact searchRead_agrees mode s (Query.read (.str s)) photos
  · exact evaluateRead_text_ne_overflow mode s photos o
  · exact searchRead_agrees mode text (.ok q) photos
  · exact f.errorClass_of_fault? fault
  · have evaluated : (Query.tags f).evaluate mode photos = .error (.query e) := by
      rw [Query.tags_evaluate, TagFormula.evaluate_of_fault? fault]
    exact ⟨_, searchRead_of_evaluate_error evaluated text, Outcome.failsWith_mk _ _ e⟩

example : evaluateRead .lenient (.ok (.tags (.single ⟨"person", "John Smith"⟩))) [] =
    .error (.query (.blankInPart .value "John Smith")) := rfl

end PhotoSearch
