import DavCourier.Text.Blank
import DavCourier.Text.Alphanumeric

/-!
# Files of variables

A file of variables has an assignment on each line, such as `NAME=value`. A value may be
quoted, may name earlier variables after `$`, and may go on over several lines in quotes;
a comment starts with `#`. `load` gives an environment the variables that it does not have
yet, up to the first line that is no assignment.
-/

namespace DavCourier

/-- Variables with their values. -/
abbrev Environment := List (String × String)

namespace Environment

/-- The value of a variable. -/
def get? (env : Environment) (name : String) : Option String :=
  env.lookup name

/-- The environment with a variable, unless it has it already. -/
def addNew (env : Environment) (name value : String) : Environment :=
  match env.get? name with
  | some _ => env
  | none => env ++ [(name, value)]

end Environment

namespace EnvFile

/-! ## Lines -/

/-- Where a line stands when a physical line ends. -/
inductive LineState where
  | complete
  | blank
  | escape
  | weak
  | weakEscape
  | strong
  | strongEscape
  /-- The rest of the physical line is a comment. -/
  | comment
  deriving DecidableEq, Repr

/-- The state after a character that opens something, or `otherwise`. -/
def openState (otherwise : LineState) (c : Char) : LineState :=
  if c = '\\' then .escape
  else if c = '"' then .weak
  else if c = '\'' then .strong
  else otherwise

/-- The state after one more character. -/
def LineState.next (state : LineState) (c : Char) : LineState :=
  match state with
  | .complete =>
    if Text.isBlank c && c ≠ '\n' && c ≠ '\r' then .blank else openState .complete c
  | .blank => if c = '#' then .comment else openState .complete c
  | .escape => .complete
  | .weak => if c = '\\' then .weakEscape else if c = '"' then .complete else .weak
  | .weakEscape => .weak
  | .strong => if c = '\\' then .strongEscape else if c = '\'' then .complete else .strong
  | .strongEscape => .strong
  | .comment => .comment

/-- The characters of a physical line before a comment, and the state after them. -/
def scanLine (state : LineState) : List Char → List Char × LineState
  | [] => ([], state)
  | c :: cs =>
    if state.next c = .comment then ([], .comment)
    else
      let (kept, last) := scanLine (state.next c) cs
      (c :: kept, last)

/-- The physical lines, each with the line feed at its end. -/
def physicalLines : List Char → List (List Char)
  | [] => []
  | c :: cs =>
    if c = '\n' then [c] :: physicalLines cs
    else
      match physicalLines cs with
      | [] => [[c]]
      | line :: lines => (c :: line) :: lines

/-- Whether the first character that is not blank starts a comment. -/
def isComment (line : List Char) : Bool :=
  (line.dropWhile Text.isBlank).head? = some '#'

/-- The lines that physical lines make up, after the part `pending` of a line. The last one
is nothing if the text ends within a line. -/
def linesFrom (pending : List Char) (state : LineState) :
    List (List Char) → List (Option (List Char))
  | [] => if state = .complete then [] else [none]
  | line :: rest =>
    if isComment (pending ++ line) then linesFrom [] .complete rest
    else
      let (kept, last) := scanLine state line
      if last = .complete ∨ last = .comment then
        some (pending ++ kept) :: linesFrom [] .complete rest
      else linesFrom (pending ++ kept) last rest

/-- The lines of a text. -/
def lines (cs : List Char) : List (Option (List Char)) :=
  linesFrom [] .complete (physicalLines cs)

/-! ## Values -/

/-- Where the reader of a value stands. -/
inductive ValueMode where
  | plain
  | strong
  | escape
  /-- In the name of a variable, in reverse. -/
  | name (seen : List Char)
  /-- In the name of a variable between braces, in reverse. -/
  | braced (seen : List Char)
  /-- After the value. -/
  | ended
  /-- In a comment after the value. -/
  | comment
  deriving DecidableEq, Repr

/-- A value that is being read : what it holds so far, in reverse, and whether double quotes
are open. -/
structure ValueState where
  mode : ValueMode := .plain
  weak : Bool := false
  value : List Char := []
  deriving DecidableEq, Repr

/-- The state after the value of a variable. -/
def ValueState.substitute (env : Environment) (s : ValueState) (name : List Char) :
    ValueState :=
  let value := (env.get? (String.ofList name.reverse)).getD ""
  { s with mode := .plain, value := value.toList.reverse ++ s.value }

/-- The character that an escaped one stands for. -/
def unescape? (c : Char) : Option Char :=
  if c = '\\' ∨ c = '\'' ∨ c = '"' ∨ c = '$' ∨ c = ' ' then some c
  else if c = 'n' then some '\n'
  else none

/-- The state with one more character in the value. -/
def ValueState.push (s : ValueState) (c : Char) : ValueState :=
  { s with mode := .plain, value := c :: s.value }

/-- The state after a character outside names, single quotes and escapes. -/
def ValueState.plainStep (s : ValueState) (c : Char) : ValueState :=
  if c = '$' then { s with mode := .name [] }
  else if s.weak then
    if c = '"' then { s with weak := false }
    else if c = '\\' then { s with mode := .escape }
    else s.push c
  else if c = '\'' then { s with mode := .strong }
  else if c = '"' then { s with weak := true }
  else if c = '\\' then { s with mode := .escape }
  else if c = ' ' ∨ c = '\t' then { s with mode := .ended }
  else s.push c

/-- The state after one more character, unless the value is wrong there. The character after
a name without braces belongs to the value, whatever it is. -/
def ValueState.step (env : Environment) (s : ValueState) (c : Char) : Option ValueState :=
  match s.mode with
  | .plain => some (s.plainStep c)
  | .strong =>
    if c = '\'' then some { s with mode := .plain }
    else some { s with value := c :: s.value }
  | .escape => (unescape? c).map s.push
  | .name seen =>
    if Text.isAlphanumeric c then some { s with mode := .name (c :: seen) }
    else if c = '\x7b' && seen.isEmpty then some { s with mode := .braced [] }
    else
      let s := s.substitute env seen
      if c = '$' then some { s with mode := .name [] } else some (s.push c)
  | .braced seen =>
    if c = '\x7d' then some (s.substitute env seen)
    else some { s with mode := .braced (c :: seen) }
  | .ended =>
    if c = ' ' ∨ c = '\t' then some s
    else if c = '#' then some { s with mode := .comment }
    else none
  | .comment => some s

/-- The value that ends in this state, unless something is open. -/
def ValueState.finish (env : Environment) (s : ValueState) : Option (List Char) :=
  match s.mode with
  | .strong | .braced _ => none
  | .name seen => if s.weak then none else some (s.substitute env seen).value.reverse
  | _ => if s.weak then none else some s.value.reverse

/-- The value that a text spells. -/
def value? (env : Environment) (cs : List Char) : Option (List Char) :=
  (cs.foldlM (ValueState.step env) {}).bind (ValueState.finish env)

/-! ## Assignments -/

/-- The characters that a name starts with. -/
def startsName (c : Char) : Bool :=
  c.isAlpha || c = '_'

/-- The characters of a name. -/
def isNameChar (c : Char) : Bool :=
  c.isAlphanum || c = '_' || c = '.'

/-- The text after its blanks. -/
def skip (cs : List Char) : List Char :=
  cs.dropWhile Text.isBlank

/-- A name and what follows it and the blanks after it. -/
def name? (cs : List Char) : Option (List Char × List Char) :=
  if cs.head?.any startsName then
    some (cs.takeWhile isNameChar, skip (cs.dropWhile isNameChar))
  else none

/-- The text after an equals sign. -/
def equals? : List Char → Option (List Char)
  | '=' :: cs => some cs
  | _ => none

/-- The name that a line assigns to and the text of the value. The word `export` may stand
before the name. -/
def target? (cs : List Char) : Option (List Char × List Char) :=
  match name? cs with
  | none => none
  | some (name, rest) =>
    match equals? rest with
    | some rest => some (name, skip rest)
    | none =>
      if name = "export".toList then
        (name? rest).bind fun (name, rest) =>
          (equals? rest).map fun rest => (name, skip rest)
      else none

/-- What a line assigns : nothing for a blank one, and no answer if it is wrong. -/
def assignment? (env : Environment) (line : List Char) :
    Option (Option (List Char × List Char)) :=
  let line := skip (Text.dropTrailing Text.isBlank line)
  if line.isEmpty || isComment line then some none
  else
    match target? line with
    | none => none
    | some (name, rest) =>
      if rest.isEmpty || isComment rest then some (some (name, []))
      else (value? env rest).map fun value => some (name, value)

/-- The environment after lines, up to the first wrong one. -/
def loadLines (env : Environment) : List (Option (List Char)) → Environment
  | [] => env
  | none :: _ => env
  | some line :: rest =>
    match assignment? env line with
    | none => env
    | some none => loadLines env rest
    | some (some (name, value)) =>
      loadLines (env.addNew (String.ofList name) (String.ofList value)) rest

/-- The text without a mark of the byte order at its start. -/
def dropMark : List Char → List Char
  | '\ufeff' :: cs => cs
  | cs => cs

/-- The environment after a file of variables. -/
def load (env : Environment) (content : String) : Environment :=
  loadLines env (lines (dropMark content.toList))

end EnvFile

end DavCourier
