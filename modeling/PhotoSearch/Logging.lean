import PhotoSearch.Settings
import PhotoSearch.Text.Alphanumeric
import PhotoSearch.Text.Quoted

/-! How the log is kept: the level from which on entries count, and the format of an entry. -/

namespace PhotoSearch

structure LogConfig where
  level : Nat
  format : String
deriving DecidableEq

/-- Why the log cannot be configured. -/
inductive LogFault where
  | formatWithoutField (format : String)
  | levelIsFormat
  | levelIsTable
deriving DecidableEq

namespace LogConfig

def usualFormat : String := "%(levelname)s:%(name)s:%(message)s"

def usualLevel : String := "INFO"

/-- The names of levels. Two names belong to the usual format and to the table of the styles that
formats can have, and not to a level. -/
def levels : List (String × Except LogFault Nat) :=
  [("CRITICAL", .ok 50), ("FATAL", .ok 50), ("ERROR", .ok 40), ("WARNING", .ok 30),
    ("WARN", .ok 30), ("INFO", .ok 20), ("DEBUG", .ok 10), ("NOTSET", .ok 0),
    ("BASIC_FORMAT", .error .levelIsFormat), ("_STYLES", .error .levelIsTable)]

/-- The level with this name, in letters of either case; unknown names mean the level `INFO`. -/
def levelOf (name : String) : Except LogFault Nat :=
  ((levels.find? fun l => l.1 == Text.upper name).map Prod.snd).getD (.ok 20)

/-- The characters of a field's name: letters, digits and numbers of any script, and the
underscore. -/
def isNameChar (c : Char) : Bool := Text.isAlphanumeric c || c == '_'

/-- Drops an asterisk, or decimal digits of any script if there are any. -/
def dropWidth : List Char → List Char
  | '*' :: rest => rest
  | cs => cs.dropWhile Text.isDecimalDigit

/-- Drops a point with an asterisk or decimal digits after it. -/
def dropPrecision : List Char → List Char
  | '.' :: '*' :: rest => rest
  | '.' :: c :: rest =>
    if Text.isDecimalDigit c then rest.dropWhile Text.isDecimalDigit else '.' :: c :: rest
  | cs => cs

/-- The characters that end a field, in either case. -/
def conversions : List Char := "diouxefgcrsa%".toList ++ ['\u0130', '\u0131', '\u017F']

/-- Whether a text begins with a field such as `%(message)s`. -/
def startsWithField : List Char → Bool
  | '%' :: '(' :: rest =>
    match rest.takeWhile isNameChar, rest.dropWhile isNameChar with
    | _ :: _, ')' :: tail =>
      let tail := dropPrecision (dropWidth (tail.dropWhile fun c => "#0+ -".toList.contains c))
      (tail.head?.map fun c => conversions.contains c.toLower).getD false
    | _, _ => false
  | _ => false

/-- Whether a field begins anywhere in a text. -/
def hasField : List Char → Bool
  | [] => false
  | c :: rest => startsWithField (c :: rest) || hasField rest

example : hasField usualFormat.toList = true := by decide +kernel

/-- The configuration that the settings call for, at the level `otherwise` if they name none. The
format is checked before the level. -/
def ofSettings (s : Settings) (otherwise : String) : Except LogFault LogConfig := do
  let format := ((s.value .logFormat).filter fun f => f ≠ "").getD usualFormat
  if hasField format.toList then
    return ⟨← levelOf ((s.value .logLevel).getD otherwise), format⟩
  else throw (.formatWithoutField format)

end LogConfig

/-- The table of styles, each with its mark, its class and the usual format in that style. -/
def stylesTable : String :=
  "\x7b'%': (<class 'logging.PercentStyle'>, '%(levelname)s:%(name)s:%(message)s'), " ++
    "'\x7b': (<class 'logging.StrFormatStyle'>, " ++
    "'\x7blevelname\x7d:\x7bname\x7d:\x7bmessage\x7d'), " ++
    "'$': (<class 'logging.StringTemplateStyle'>, " ++
    "'$\x7blevelname\x7d:$\x7bname\x7d:$\x7bmessage\x7d')\x7d"

def LogFault.message : LogFault → String
  | formatWithoutField format => "Invalid format '" ++ format ++ "' for '%' style"
  | levelIsFormat => "Unknown level: " ++ Text.quoted LogConfig.usualFormat
  | levelIsTable => "Level not an integer or a valid string: " ++ stylesTable

end PhotoSearch
