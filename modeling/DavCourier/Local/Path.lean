import DavCourier.Text.Split
import DavCourier.Text.Utf8

/-!
# Written paths of files

A written path is a text with slashes. `enclosing?` is the path of the directory that it
is written in : the text before the last name, without the slashes and the `.` names that
say nothing there. `pathBelow` is the path of what names lead to from a directory.

Names are texts. Those names of an operating system that are not UTF-8 do not occur.
-/

namespace DavCourier.Local

/-- The length of the longest name. -/
def maxName : Nat := 255

/-- The names that a file or a directory may have. -/
structure IsFileName (name : List Char) : Prop where
  ne_nil : name ≠ []
  ne_dot : name ≠ ['.']
  ne_dots : name ≠ ['.', '.']
  slash : '/' ∉ name
  nul : '\x00' ∉ name
  short : (Utf8.encode name).length ≤ maxName

instance (name : List Char) : Decidable (IsFileName name) :=
  decidable_of_iff (name ≠ [] ∧ name ≠ ['.'] ∧ name ≠ ['.', '.'] ∧ '/' ∉ name ∧
      '\x00' ∉ name ∧ (Utf8.encode name).length ≤ maxName)
    ⟨fun ⟨hnil, hdot, hdots, hslash, hnul, hshort⟩ => ⟨hnil, hdot, hdots, hslash, hnul, hshort⟩,
      fun ⟨hnil, hdot, hdots, hslash, hnul, hshort⟩ => ⟨hnil, hdot, hdots, hslash, hnul, hshort⟩⟩

/-- Whether a name between slashes says nothing. -/
def isIdle (name : List Char) : Bool :=
  name.isEmpty || name == ['.']

/-- The names without the last ones that say nothing. -/
def dropIdle (names : List (List Char)) : List (List Char) :=
  (names.reverse.dropWhile isIdle).reverse

/-- The names of a path that starts in the current directory, where a first `.` counts. -/
def dropIdleRelative : List (List Char) → List (List Char)
  | [] => []
  | first :: names => first :: dropIdle names

/-- The path of the directory that a path is written in, if it has a last name. -/
def enclosing? (path : List Char) : Option (List Char) :=
  match path with
  | [] => none
  | '/' :: rest =>
    match dropIdle (Text.splitAt '/' rest) with
    | [] => none
    | names => some ('/' :: Text.join '/' (dropIdle names.dropLast))
  | path =>
    let names := dropIdleRelative (Text.splitAt '/' path)
    some (Text.join '/' (dropIdleRelative names.dropLast))

/-- The path of what names lead to from the directory of a path. -/
def pathBelow (path : List Char) (names : List (List Char)) : List Char :=
  if names.isEmpty then path
  else (if path.getLast? = some '/' then path else path ++ ['/']) ++ Text.join '/' names

end DavCourier.Local
