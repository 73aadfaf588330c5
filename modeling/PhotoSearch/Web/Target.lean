import PhotoSearch.Text.Case

/-!
The target of a request, a reference like `/search?q=1` or `http://host/search`, and the place that
it names.
-/

namespace PhotoSearch.Web

structure Target where
  scheme : List Char
  authority : List Char
  path : List Char

namespace Target

def isSchemeChar (c : Char) : Bool := c.isAlphanum || "+-.".toList.contains c

/-- A scheme with the colon after it taken off. It begins with a letter, or there is only a
colon. -/
def splitScheme (cs : List Char) : List Char × List Char :=
  let scheme := cs.takeWhile isSchemeChar
  match cs.dropWhile isSchemeChar with
  | ':' :: rest => if (scheme.head?.map Char.isAlpha).getD true then (scheme, rest) else ([], cs)
  | _ => ([], cs)

/-- An authority with the two slashes before it taken off. -/
def splitAuthority : List Char → List Char × List Char
  | '/' :: '/' :: rest =>
    (rest.takeWhile fun c => !"/?#".toList.contains c,
      rest.dropWhile fun c => !"/?#".toList.contains c)
  | cs => ([], cs)

/-- The parts of a reference; its query and its fragment are left out. -/
def ofChars (cs : List Char) : Target :=
  let (scheme, rest) := splitScheme cs
  let (authority, rest) := splitAuthority rest
  ⟨scheme, authority, rest.takeWhile fun c => !"?#".toList.contains c⟩

/-! ### Segments of a path -/

/-- What stands between the slashes. -/
def segments : List Char → List (List Char)
  | [] => [[]]
  | c :: rest =>
    if c = '/' then [] :: segments rest
    else match segments rest with
      | [] => [[c]]
      | segment :: more => (c :: segment) :: more

/-- Takes one more segment after those of `back`, the last of which comes first. A point stands for
no segment, and two points undo the last one, except for what comes before the first slash. -/
def walk (back : List (List Char)) (segment : List Char) : List (List Char) :=
  if segment = ['.'] then back
  else if segment = ['.', '.'] then if back = [] ∨ back = [[]] then back else back.tail
  else segment :: back

/-- A path without the segments that are points. -/
def resolveDots (path : List Char) : List Char :=
  ['/'].intercalate ((segments path).foldl walk []).reverse

/-! ### Escapes -/

def hexValue? (c : Char) : Option Nat :=
  if c.isDigit then some (c.toNat - '0'.toNat)
  else if 'a' ≤ c.toLower ∧ c.toLower ≤ 'f' then some (c.toLower.toNat - 'a'.toNat + 10)
  else none

/-- Replaces each percent sign and two hexadecimal digits by the character of that code. -/
def unescape : List Char → List Char
  | '%' :: a :: b :: rest =>
    match hexValue? a, hexValue? b with
    | some high, some low => Char.ofNat (high * 16 + low) :: unescape rest
    | _, _ => '%' :: unescape (a :: b :: rest)
  | c :: rest => c :: unescape rest
  | [] => []

/-! ### Places -/

/-- The path from the root on. A reference without a scheme and an authority counts from the
root, however many slashes it begins with. -/
def absolutePath (t : Target) : List Char :=
  let path := if t.scheme = [] ∧ t.authority = [] then t.path else resolveDots t.path
  if t.scheme ≠ [] ∧ t.authority ≠ [] then path
  else resolveDots ('/' :: path.dropWhile (· == '/'))

/-- The place that a target names. Escapes are replaced twice, once for the reference and once for
the place. Slashes at the end do not count, nor does one line feed before them. -/
def place (t : Target) : List Char :=
  let back := (unescape (unescape t.absolutePath)).reverse.dropWhile (· == '/')
  (if back.head? = some '\n' then back.tail else back).reverse

end Target

end PhotoSearch.Web
