import PhotoSearch.Calendar.TypedDay
import PhotoSearch.Data
import PhotoSearch.Text.Blank
import PhotoSearch.Text.Case

/-! Settings, and the lines of text that assign them. -/

namespace PhotoSearch

/-- The variables that mean something here. -/
inductive Variable where
  | strictness
  | resultsName
  | logLevel
  | logFormat
  | fillingOff
deriving DecidableEq

def Variable.name : Variable → String
  | strictness => "PHOTO_ALBUM_STRICT_DATES"
  | resultsName => "PHOTO_ALBUM_RESULTS_NAME"
  | logLevel => "LOG_LEVEL"
  | logFormat => "LOG_FORMAT"
  | fillingOff => "PYTHON_DOTENV_DISABLED"

/-- Why a variable cannot be set. -/
inductive SettingsFault where
  | notText (kind : String)
  | nulCharacter
  | equalsSign
  | noName
deriving DecidableEq

def SettingsFault.message : SettingsFault → String
  | notText kind => "str expected, not " ++ kind
  | nulCharacter => "embedded null byte"
  | equalsSign => "illegal environment variable name"
  | noName => "[Errno 22] Invalid argument"

/-- How typed days are read where strictness is given as data. -/
def DateMode.ofData (strict : Data) : DateMode := .ofStrict (!strict.isVacant)

/-- The texts of the variables that are set, by their names. Variables of any name can be set. -/
structure Settings where
  text? : String → Option String

namespace Settings

def empty : Settings := ⟨fun _ => none⟩

def value (s : Settings) (v : Variable) : Option String := s.text? v.name

def put (s : Settings) (name text : String) : Settings :=
  ⟨fun other => if other = name then some text else s.text? other⟩

/-- What keeps a value from being set under a name, if anything does. The NUL character ends names
and texts, and an equals sign ends names, so neither can be part of them. -/
def fault? (name : String) : Data → Option SettingsFault
  | .str text =>
    if '\x00' ∈ name.toList ∨ '\x00' ∈ text.toList then some .nulCharacter
    else if '=' ∈ name.toList then some .equalsSign
    else if name = "" then some .noName
    else none
  | d => some (.notText d.kindName)

/-- Carries out assignments in order, up to the first that cannot be. Those before it last. -/
def assign (s : Settings) : List (String × Data) → Settings × Except SettingsFault Unit
  | [] => (s, .ok ())
  | (name, d) :: rest =>
    match fault? name d with
    | some f => (s, .error f)
    | none => assign (s.put name d.rawText) rest

/-- The words that turn a setting on, in letters of either case. -/
def affirmatives : List String := ["1", "true", "yes", "on"]

/-- How typed days are read: strictly only if an affirmative is set, blanks around it apart. -/
def dateMode (s : Settings) : DateMode :=
  .ofStrict (affirmatives.contains (Text.strip ((s.value .strictness).getD "")).toLower)

/-- What is asked for, or whether days are read strictly if nothing is. -/
def strictness (s : Settings) : Data → Data
  | .null => .bool (s.dateMode == .strict)
  | asked => asked

/-- The usual name of an album of results. -/
def resultsName (s : Settings) : String :=
  let name := Text.strip ((s.value .resultsName).getD "")
  if name = "" then "Search Results" else name

theorem resultsName_ne_empty (s : Settings) : s.resultsName ≠ "" := by
  simp only [resultsName]; split <;> simp_all

end Settings

/-! ### Lines that assign -/

/-- A line's name, and the text assigned to it if there is an equals sign. -/
structure Assignment where
  name : String
  value : Option String
deriving DecidableEq

namespace Assignment

/-- The text up to the first blank that only blanks separate from a number sign. It is looked for
before the text is stripped, so `= # b` leaves nothing, and `=# b` leaves all. -/
def cutComment : List Char → List Char
  | [] => []
  | c :: rest =>
    if Text.isBlank c && (rest.dropWhile Text.isBlank).head? == some '#' then []
    else c :: cutComment rest

def isNameChar (c : Char) : Bool := !(Text.isBlank c || c == '=' || c == '#')

/-- The line without a leading word `export`. -/
def dropExport (cs : List Char) : List Char :=
  let rest := cs.drop 6
  if cs.take 6 = "export".toList ∧ rest.takeWhile Text.isBlank ≠ [] then
    rest.dropWhile Text.isBlank
  else cs

/-- Reads one line. An empty line and a comment assign nothing, nor does a line that is neither a
name alone nor a name, an equals sign and a text. -/
def ofLine? (line : List Char) : Option Assignment :=
  let cs := dropExport (line.dropWhile Text.isBlank)
  let name := cs.takeWhile isNameChar
  if name = [] then none
  else match (cs.dropWhile isNameChar).dropWhile Text.isBlank with
    | [] | '#' :: _ => some ⟨String.ofList name, none⟩
    | '=' :: text =>
      some ⟨String.ofList name, some (String.ofList (Text.stripChars (cutComment text)))⟩
    | _ => none

/-- The lines of a text; each of line feed, carriage return, and the two together ends a line. -/
def lines : List Char → List (List Char)
  | [] => [[]]
  | '\r' :: '\n' :: rest => [] :: lines rest
  | c :: rest =>
    if c = '\n' ∨ c = '\r' then [] :: lines rest
    else match lines rest with
      | [] => [[c]]
      | line :: more => (c :: line) :: more

/-- The text without the byte order mark that it may begin with. -/
def dropMark : List Char → List Char
  | '\uFEFF' :: rest => rest
  | cs => cs

/-- The assignments that no later one with the same name replaces. -/
def lasting : List Assignment → List Assignment
  | [] => []
  | a :: rest => if rest.any fun b => b.name == a.name then lasting rest else a :: lasting rest

/-- What the lines of a text assign in the end. -/
def ofText (text : String) : List Assignment :=
  lasting ((lines (dropMark text.toList)).filterMap ofLine?)

end Assignment

namespace Settings

/-- The words that keep settings from being taken over from lines. -/
def refusals : List String := ["1", "true", "t", "yes", "y"]

/-- Whether settings are not to be taken over from lines. -/
def refusesLines (s : Settings) : Bool :=
  refusals.contains (Text.fold ((s.value .fillingOff).getD ""))

/-- What is to be set for an assignment: nothing for a name alone or one that is set already. -/
def fresh? (s : Settings) (a : Assignment) : Option (String × Data) :=
  if (s.text? a.name).isSome then none else a.value.map fun text => (a.name, .str text)

/-- Takes settings over from assignments, for the variables that are not set yet. -/
def fill (s : Settings) (assignments : List Assignment) : Except SettingsFault Settings :=
  if s.refusesLines then .ok s
  else
    let (filled, result) := s.assign (assignments.filterMap s.fresh?)
    result.map fun _ => filled

end Settings

end PhotoSearch
