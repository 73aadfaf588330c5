import PhotoSearch.Text.Quoted

/-! Structured data: what a record is read from and written to. -/

namespace PhotoSearch

/-- A data value; `decimal m p` is the number `m` divided by ten to the power `p`. -/
inductive Data where
  | null
  | bool (b : Bool)
  | int (n : Int)
  | decimal (mantissa : Int) (places : Nat)
  | str (s : String)
  | list (items : List Data)
  | object (fields : List (String × Data))
deriving Inhabited

namespace Data

/-- The value of the first field with this name. -/
def lookup (name : String) (fields : List (String × Data)) : Option Data :=
  (fields.find? fun field => field.1 == name).map Prod.snd

/-- The name of a value's kind, as error messages give it. -/
def kindName : Data → String
  | null => "NoneType"
  | bool _ => "bool"
  | int _ => "int"
  | decimal _ _ => "float"
  | str _ => "str"
  | list _ => "list"
  | object _ => "dict"

/-- A decimal number in positional notation, with a digit on each side of the point. -/
def decimalLiteral (mantissa : Int) (places : Nat) : String :=
  let digits := Text.zeroFill (places + 1) (Text.numeral mantissa.natAbs)
  String.ofList ((if mantissa < 0 then ['-'] else []) ++ digits.take (digits.length - places) ++
    '.' :: digits.drop (digits.length - places))

mutual

/-- The literal that messages show for a value. Its integers are taken to be writable, as they are
where they were read from a text. -/
def literal : Data → String
  | null => "None"
  | bool true => "True"
  | bool false => "False"
  | int n => Text.decimal n
  | decimal mantissa places => decimalLiteral mantissa places
  | str s => Text.quoted s
  | list items => "[" ++ ", ".intercalate (literals items) ++ "]"
  | object fields => "\x7b" ++ ", ".intercalate (fieldLiterals fields) ++ "\x7d"

def literals : List Data → List String
  | [] => []
  | d :: ds => literal d :: literals ds

def fieldLiterals : List (String × Data) → List String
  | [] => []
  | (name, d) :: fields => (Text.quoted name ++ ": " ++ literal d) :: fieldLiterals fields

end

/-- The raw text of a value: a text stands for itself, anything else for its literal. -/
def rawText : Data → String
  | str s => s
  | d => literal d

/-- Whether a value holds nothing: no text, items or fields, no amount, not the truth. -/
def isVacant : Data → Bool
  | null => true
  | bool b => !b
  | int n => n == 0
  | decimal mantissa _ => mantissa == 0
  | str s => s == ""
  | list items => items.isEmpty
  | object fields => fields.isEmpty

def ofOption (write : α → Data) : Option α → Data
  | none => null
  | some a => write a

def ofOptionalString : Option String → Data := ofOption str

end Data

end PhotoSearch
