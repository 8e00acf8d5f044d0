import DavCourier.Text.Blank
import DavCourier.Text.Case

/-!
# How deep a query goes

`Depth.ofString?` reads a depth in either case and between blanks; `Depth.headerValue`
writes it.
-/

namespace DavCourier.Dav

/-- The resources that a query is about. -/
inductive Depth where
  /-- The resource alone. -/
  | zero
  /-- The resource and its members. -/
  | one
  /-- The resource and all that is below it. -/
  | infinity
  deriving DecidableEq, Repr

namespace Depth

/-- The depth as a request gives it. -/
def headerValue : Depth → String
  | zero => "0"
  | one => "1"
  | infinity => "infinity"

/-- The word for the depth. -/
def word : Depth → String
  | zero => "zero"
  | one => "one"
  | infinity => "infinity"

/-- What a depth is read from : the text between its blanks in lower case. -/
def reading (s : String) : String :=
  String.ofList ((Text.trimChars s.toList).map Text.lower)

/-- The depth that a text spells. -/
def ofString? (s : String) : Option Depth :=
  if reading s = "0" then some zero
  else if reading s = "1" then some one
  else if reading s = "infinity" then some infinity
  else none

/-- The wording for a text that spells no depth. -/
def refusal (s : String) : String :=
  s!"Invalid depth '{reading s}'. Valid values are: 0, 1, infinity"

end Depth

end DavCourier.Dav
