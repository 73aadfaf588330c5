import PhotoSearch.Journal
import PhotoSearch.Session.Perform

/-! Running a session step by step. -/

namespace PhotoSearch.Session

def bindName (names : List (String × Binding)) (name : Option String) (made : Option Binding) :
    List (String × Binding) :=
  match name, made with
  | some name, some b => (name, b) :: names.filter fun other => other.1 != name
  | _, _ => names

/-- An action that fails changes no object and binds nothing. -/
def step (s : Session) (st : Step) : Session × Except Failure Data :=
  match s.perform st.action with
  | .ok e =>
    (⟨e.store, bindName s.names st.saveAs e.made, e.settings, s.clock + 1⟩, e.reply)
  | .error f => ({ s with clock := s.clock + 1 }, .error f)

/-- The answers to the steps, and the session after them. -/
def run (s : Session) : List Step → Session × List (Except Failure Data)
  | [] => (s, [])
  | st :: rest =>
    let (next, reply) := s.step st
    let (last, replies) := run next rest
    (last, reply :: replies)

/-- What an action reports while it is performed. -/
def actionJournal (s : Session) : Action → List Entry
  | .search raw source mode =>
    match s.source source, s.mode mode with
    | .ok items, .ok mode =>
      match s.searchAmong mode raw items with
      | .ok _ => searchJournal mode raw (s.store.photosOf (items.filterMap Binding.photo?))
      | .error _ => readJournal raw
    | _, _ => []
  | _ => []

/-- What the steps report, in order. -/
def journal (s : Session) : List Step → List Entry
  | [] => []
  | st :: rest => s.actionJournal st.action ++ journal (s.step st).1 rest

end PhotoSearch.Session
