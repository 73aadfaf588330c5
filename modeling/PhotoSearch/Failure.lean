import PhotoSearch.Logging
import PhotoSearch.Query.Span
import PhotoSearch.Record.Kind
import PhotoSearch.Record.Tagging

/-! All the ways in which a request to the library can fail. -/

namespace PhotoSearch

inductive Failure where
  | raised (r : Raised)
  | overflow (o : Overflow)
  | invalid (k : RecordKind) (issues : List Issue)
  | tagPresent (t : Tag)
  | emptyName (e : EmptyName)
  | nameTaken (e : NameTaken)
  | mixedTimes (e : MixedTimes)
  | settings (f : SettingsFault)
  | log (f : LogFault)
  | lookup (e : LookupFault)
  | lacking (kind member : String)
  | unbound (name : String)

namespace Failure

def ofQueryError (e : QueryError) : Failure := raised ⟨e.errorClass, e.message⟩

def ofFault : Fault → Failure
  | .query e => ofQueryError e
  | .overflow o => overflow o

def ofTagRefusal : TagRefusal → Failure
  | .invalid issues => invalid .tag issues
  | .present t => tagPresent t

/-- What a failure says; of invalid data it says what kind of record they should have been. -/
def message : Failure → String
  | raised r => r.message
  | overflow o => o.message
  | invalid k _ => k.name
  | tagPresent t => "Tag " ++ t.key ++ "=" ++ t.value ++ " already present"
  | emptyName e => e.message
  | nameTaken e => e.message
  | mixedTimes e => e.message
  | settings f => f.message
  | log f => f.message
  | lookup e => e.message
  | lacking kind member => Text.quoted kind ++ " object has no attribute " ++ Text.quoted member
  | unbound name => Text.quoted name

end Failure

/-- The value of a checked record, or its issues as a failure. -/
def Checked.accept {α : Type} (k : RecordKind) : Checked α → Except Failure α
  | good a => .ok a
  | bad issues => .error (.invalid k issues)

theorem Checked.accept_eq_ok_iff {α : Type} {k : RecordKind} {x : Checked α} {a : α} :
    x.accept k = .ok a ↔ x = .good a := by
  cases x <;> simp [accept]

end PhotoSearch
