import DavCourier.Text.Blank
import DavCourier.Url.Host
import DavCourier.Url.Path

/-!
# Addresses

`Url.parse` reads an absolute address and `Url.render` writes it. Reading is lenient about
slashes and spaces, escapes what each part escapes, and settles dots in the path and the
form of the host, so that equal places have equal text.
-/

namespace DavCourier

/-- Where a server is, and who asks. The parts are in their written form. -/
structure Url.Authority where
  user : List Char
  password : Option (List Char)
  /-- Empty if there is none. -/
  host : List Char
  /-- Absent if it is the port of the scheme. -/
  port : Option Nat
  deriving DecidableEq, Repr

/-- An absolute address. The parts are in their written form. -/
structure Url where
  scheme : List Char
  authority : Option Url.Authority
  path : List Char
  query : Option (List Char)
  fragment : Option (List Char)
  deriving DecidableEq, Repr

namespace Url

/-- The schemes with a host and a path of slashes, with the port of each. -/
def specialSchemes : List (List Char × Option Nat) :=
  [("http".toList, some 80), ("https".toList, some 443), ("ws".toList, some 80),
    ("wss".toList, some 443), ("ftp".toList, some 21), ("file".toList, none)]

/-- Whether the scheme is special. -/
def isSpecial (scheme : List Char) : Bool :=
  (specialSchemes.lookup scheme).isSome

/-- The port of a scheme. -/
def defaultPort? (scheme : List Char) : Option Nat :=
  (specialSchemes.lookup scheme).join

/-- Whether the address names a host. -/
def hasHost (u : Url) : Bool :=
  match u.authority with
  | some a => !a.host.isEmpty
  | none => false

/-- What reading ignores at both ends. -/
def isPadding (c : Char) : Bool :=
  c.toNat ≤ 0x20

/-- What reading ignores everywhere. -/
def isIgnored (c : Char) : Bool :=
  c = '\t' || c = '\n' || c = '\r'

/-- The characters that reading does not ignore. -/
def significant (cs : List Char) : List Char :=
  (Text.dropTrailing isPadding (cs.dropWhile isPadding)).filter (!isIgnored ·)

/-- The characters of a scheme after its first letter. -/
def isSchemeChar (c : Char) : Bool :=
  c.isAlphanum || c = '+' || c = '-' || c = '.'

/-- The scheme in lower case, and what follows its colon. -/
def scheme? (cs : List Char) : Option (List Char × List Char) :=
  match cs with
  | [] => none
  | c :: _ =>
    if c.isAlpha then
      match cs.dropWhile isSchemeChar with
      | ':' :: rest => some ((cs.takeWhile isSchemeChar).map Text.lower, rest)
      | _ => none
    else none

/-- The characters that end the authority. -/
def endsAuthority (special : Bool) (c : Char) : Bool :=
  c = '/' || c = '?' || c = '#' || (special && c = '\\')

/-- The text before the last `@` and the text after it. -/
def splitLastAt (cs : List Char) : Option (List Char × List Char) :=
  match cs.reverse.span (· ≠ '@') with
  | (after, _ :: before) => some (before.reverse, after.reverse)
  | (_, []) => none

/-- The user and the password of a text, which the first colon separates. An empty password
is none. -/
def credentials (cs : List Char) : List Char × Option (List Char) :=
  match cs.span (· ≠ ':') with
  | (user, _ :: c :: password) =>
    (escapeWith keepsInUser user, some (escapeWith keepsInUser (c :: password)))
  | (user, _) => (escapeWith keepsInUser user, none)

/-- The user, the password and what follows them. -/
def readUser (special : Bool) (cs : List Char) :
    Except Fault ((List Char × Option (List Char)) × List Char) :=
  let region := cs.takeWhile (!endsAuthority special ·)
  let rest := cs.dropWhile (!endsAuthority special ·)
  match splitLastAt region with
  | none => .ok (([], none), cs)
  | some (before, after) =>
    match before, after, rest with
    | [], [], _ :: _ => .error .emptyHost
    | _, _, _ => .ok (credentials before, after ++ rest)

/-- The characters of a host and those after it. A colon between brackets ends no host. -/
def spanHost (special inside : Bool) : List Char → List Char × List Char
  | [] => ([], [])
  | c :: cs =>
    if endsAuthority special c || (c = ':' && !inside) then ([], c :: cs)
    else
      let (host, rest) := spanHost special (c = '[' || (inside && c ≠ ']')) cs
      (c :: host, rest)

/-- The characters that may follow a port. -/
def endsPort (c : Char) : Bool :=
  c = '/' || c = '\\' || c = '?' || c = '#'

/-- The port at the start of a text, unless it is the one of the scheme, and what follows
its digits. -/
def readPort (scheme : List Char) (cs : List Char) : Except Fault (Option Nat × List Char) :=
  let rest := cs.dropWhile Char.isDigit
  if rest.head?.any (!endsPort ·) then .error .badPort
  else
    match Numeral.value? 10 (cs.takeWhile Char.isDigit) with
    | none => .ok (none, rest)
    | some n =>
      if 65535 < n then .error .badPort
      else .ok (if defaultPort? scheme = some n then none else some n, rest)

/-- The written host of a text, by the kind of the scheme. -/
def readHost (special : Bool) (text : List Char) : Except Fault (List Char) :=
  if special then if text.isEmpty then .error .emptyHost else specialHost text
  else opaqueHost text

/-- Where the server is, and what follows. -/
def readAuthority (scheme : List Char) (cs : List Char) :
    Except Fault (Authority × List Char) := do
  let special := isSpecial scheme
  let ((user, password), cs) ← readUser special cs
  let (text, cs) := spanHost special false cs
  let host ← readHost special text
  match cs with
  | ':' :: rest =>
    if host.isEmpty then .error .emptyHost
    else do
      let (port, rest) ← readPort scheme rest
      return (⟨user, password, host, port⟩, rest)
  | _ =>
    if host.isEmpty && (!user.isEmpty || password.isSome) then .error .emptyHost
    else return (⟨user, password, host, none⟩, cs)

/-- Whether the path goes on. -/
def isPathChar (c : Char) : Bool :=
  !(c = '?' || c = '#')

/-- The characters of a text without its first slash. -/
def dropSlash (special : Bool) : List Char → List Char
  | c :: cs => if c = '/' || (special && c = '\\') then cs else c :: cs
  | [] => []

/-- The written path of a text. Only with a special scheme an empty path is a slash. -/
def readPath (special : Bool) (text : List Char) : List Char :=
  if text.isEmpty && !special then []
  else joinSegments (pathSegments special (dropSlash special text))

/-- The query and the fragment of what follows a path. -/
def readTail (special : Bool) (cs : List Char) : Option (List Char) × Option (List Char) :=
  let fragment (cs : List Char) : Option (List Char) :=
    match cs with
    | '#' :: rest => some (escapeWith keepsInFragment rest)
    | _ => none
  match cs with
  | '?' :: rest =>
    (some (escapeWith (keepsInQuery special) (rest.takeWhile (· ≠ '#'))),
      fragment (rest.dropWhile (· ≠ '#')))
  | _ => (none, fragment cs)

/-- The address with this start and the parts that a text goes on with. -/
def withTail (scheme : List Char) (authority : Option Authority)
    (path : List Char → List Char) (cs : List Char) : Url :=
  let (query, fragment) := readTail (isSpecial scheme) (cs.dropWhile isPathChar)
  ⟨scheme, authority, path (cs.takeWhile isPathChar), query, fragment⟩

/-- The path of a file and whether it starts with a drive, which takes the place of a host.
Slashes at its start count once. -/
def filePath (text : List Char) : List Char × Bool :=
  let (segments, drive) := settleDrive (pathSegments true text)
  ('/' :: (joinSegments segments).dropWhile (· = '/'), drive)

/-- The address of a file. The host `localhost` is none. -/
def readFile (scheme cs : List Char) : Except Fault Url :=
  match slashes true (cs.takeWhile isPathChar) with
  | '/' :: '/' :: _ =>
    let text := (cs.drop 2).takeWhile (!endsAuthority true ·)
    let rest := (cs.drop 2).dropWhile (!endsAuthority true ·)
    if isDrive text || text.isEmpty then
      .ok (withTail scheme (some ⟨[], none, [], none⟩) (fun p => (filePath p).1) (cs.drop 2))
    else do
      let host ← specialHost text
      let host := if host = "localhost".toList then [] else host
      let drive := (filePath (rest.takeWhile isPathChar)).2
      return withTail scheme (some ⟨[], none, if drive then [] else host, none⟩)
        (fun p => (filePath p).1) rest
  | _ => .ok (withTail scheme (some ⟨[], none, [], none⟩) (fun p => (filePath p).1) cs)

/-- The address with a scheme that is not special. -/
def readOther (scheme cs : List Char) : Except Fault Url :=
  match cs with
  | '/' :: '/' :: rest => do
    let (authority, rest) ← readAuthority scheme rest
    return withTail scheme (some authority) (readPath false) rest
  | '/' :: _ => .ok (withTail scheme none (readPath false) cs)
  | _ => .ok (withTail scheme none (escapeWith keepsInOpaque) cs)

/-- The address that characters without padding spell. -/
def read (cs : List Char) : Except Fault Url :=
  match scheme? cs with
  | none => .error .relative
  | some (scheme, rest) =>
    if scheme = "file".toList then readFile scheme rest
    else if isSpecial scheme then do
      let (authority, rest) ←
        readAuthority scheme (rest.dropWhile fun c => c = '/' || c = '\\')
      return withTail scheme (some authority) (readPath true) rest
    else readOther scheme rest

/-- The address that a text spells. -/
def parse (s : String) : Except Fault Url :=
  read (significant s.toList)

/-- Who asks, as an address writes it. -/
def Authority.renderUser (a : Authority) : List Char :=
  match a.password with
  | some password => a.user ++ ':' :: password ++ ['@']
  | none => if a.user.isEmpty then [] else a.user ++ ['@']

/-- Where the server is, as an address writes it. -/
def Authority.renderHost (a : Authority) : List Char :=
  a.host ++ match a.port with
    | some n => ':' :: Numeral.decimal n
    | none => []

/-- The path, with what keeps an empty first segment apart from a host. -/
def renderPath (u : Url) : List Char :=
  match u.authority, u.path with
  | none, '/' :: '/' :: _ => "/.".toList ++ u.path
  | _, path => path

/-- A part after a mark, if there is one. -/
def markedPart (mark : Char) : Option (List Char) → List Char
  | some part => mark :: part
  | none => []

/-- The address as a text. -/
def render (u : Url) : String :=
  String.ofList <|
    u.scheme ++ [':']
      ++ (match u.authority with
        | some a => "//".toList ++ a.renderUser ++ a.renderHost
        | none => [])
      ++ u.renderPath ++ markedPart '?' u.query ++ markedPart '#' u.fragment

/-- The address without the name and the password of a user. -/
def withoutUser (u : Url) : Url :=
  { u with authority := u.authority.map fun a => { a with user := [], password := none } }

end Url

end DavCourier
