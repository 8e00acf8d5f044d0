/-!
# What a command line may say

A `Spec` describes the arguments of a command; its usage line and its help are written
from it. `specs` are the commands of the program.
-/

namespace DavCourier.Command

/-- The name of the program. -/
def program : String := "artifact-dav"

/-- An argument known by its place. -/
structure Positional where
  name : String
  help : String
  required : Bool
  deriving DecidableEq, Repr

/-- An argument known by its name. -/
structure Named where
  long : String
  short : Option Char := none
  /-- What its value is called, if it takes one. -/
  value : Option String := none
  /-- The value it has when it is not given. -/
  preset : Option String := none
  help : String
  deriving DecidableEq, Repr

/-- A command with its arguments. -/
structure Spec where
  name : String
  about : String
  positionals : List Positional := []
  options : List Named := []
  /-- Whether the command can be asked for help. -/
  hasHelp : Bool := true
  deriving DecidableEq, Repr

/-- The argument that asks for help. -/
def helpOption : Named := { long := "help", short := some 'h', help := "Print help" }

/-- An argument as a usage line shows it. -/
def Named.shown (o : Named) : String :=
  match o.value with
  | some value => s!"--{o.long} <{value}>"
  | none => s!"--{o.long}"

/-- An argument between angles. -/
def Positional.angled (p : Positional) : String :=
  s!"<{p.name}>"

/-- An argument as a usage line shows it. Brackets mark one that may be left out. -/
def Positional.shown (p : Positional) : String :=
  if p.required then p.angled else s!"[{p.name}]"

namespace Spec

/-- The named arguments, with the one that asks for help at the end. -/
def named (s : Spec) : List Named :=
  if s.hasHelp then s.options ++ [helpOption] else s.options

/-- The usage line of the command. -/
def usage (s : Spec) : String :=
  " ".intercalate
    ([program, s.name] ++ (if s.options.isEmpty then [] else ["[OPTIONS]"])
      ++ s.positionals.map Positional.shown)

/-- The usage line of the command with some arguments as if they were needed : the named
ones in their order, and the optional ones by name. -/
def usageWith (s : Spec) (named : List Named) (places : List String) : String :=
  if named.isEmpty && places.isEmpty then s.usage
  else
    " ".intercalate
      ([program, s.name] ++ named.eraseDups.map Named.shown
        ++ s.positionals.map fun p => if places.contains p.name then p.angled else p.shown)

end Spec

/-- A text with blanks after it up to a width. -/
def padRight (width : Nat) (s : String) : String :=
  s ++ "".pushn ' ' (width - s.length)

/-- Two columns, each line with two blanks before it. -/
def columns (rows : List (String × String)) : String :=
  let width := (rows.map fun r => r.1.length).foldl max 0
  String.join (rows.map fun r => s!"  {padRight width r.1}  {r.2}\n")

/-- A named argument as help shows it. -/
def Named.label (o : Named) : String :=
  match o.short with
  | some c => s!"-{c}, {o.shown}"
  | none => s!"    {o.shown}"

/-- What help says of a named argument. -/
def Named.description (o : Named) : String :=
  match o.preset with
  | some v => s!"{o.help} [default: {v}]"
  | none => o.help

/-- A part of a help text under its title, unless it is empty. -/
def helpPart (title : String) (rows : List (String × String)) : String :=
  if rows.isEmpty then "" else s!"\n{title}:\n{columns rows}"

/-- The help text of a command. -/
def Spec.helpText (s : Spec) : String :=
  s!"{s.about}\n\nUsage: {s.usage}\n"
    ++ helpPart "Arguments" (s.positionals.map fun p => (p.shown, p.help))
    ++ helpPart "Options" (s.named.map fun o => (o.label, o.description))

/-! ## The commands -/

/-- What the program is for. -/
def about : String := "Move artifacts to and from a WebDAV repository"

/-- Uploading a file. -/
def putSpec : Spec where
  name := "put"
  about := "Upload a file, creating missing collections"
  positionals :=
    [⟨"file", "Local file to upload", true⟩,
      ⟨"resource", "Repository-relative target path", true⟩]

/-- Uploading a directory. -/
def putDirectorySpec : Spec where
  name := "put-dir"
  about := "Upload a local directory tree, creating missing collections"
  positionals :=
    [⟨"directory", "Local directory to upload", true⟩,
      ⟨"destination", "Repository-relative target directory, the root when omitted", false⟩]

/-- Downloading. -/
def getSpec : Spec where
  name := "get"
  about := "Download a resource"
  positionals :=
    [⟨"resource", "Repository-relative resource path", true⟩,
      ⟨"destination", "Local destination file", true⟩]

/-- Listing a collection. -/
def listSpec : Spec where
  name := "ls"
  about := "List the members of a collection"
  positionals := [⟨"directory", "Repository-relative directory, the root when omitted", false⟩]
  options := [{ long := "json", help := "Print the listing as JSON" }]

/-- Asking for a resource. -/
def existsSpec : Spec where
  name := "exists"
  about := "Check whether a resource exists"
  positionals := [⟨"resource", "Repository-relative resource path", true⟩]

/-- Creating a collection. -/
def makeSpec : Spec where
  name := "mkdir"
  about := "Create a single collection, failing if it exists"
  positionals := [⟨"directory", "Repository-relative directory", true⟩]

/-- Asking for properties. -/
def probeSpec : Spec where
  name := "propfind"
  about := "Run a PROPFIND and print the parsed multistatus as JSON"
  positionals := [⟨"path", "Repository-relative path, the root when omitted", false⟩]
  options :=
    [{ long := "depth", short := some 'd', value := some "DEPTH", preset := some "1",
       help := "Depth header: 0, 1 or infinity" }]

/-- The commands that do something. -/
def specs : List Spec :=
  [putSpec, putDirectorySpec, getSpec, listSpec, existsSpec, makeSpec, probeSpec]

/-- Asking for help by a command. -/
def helpSpec : Spec where
  name := "help"
  about := "Print this message or the help of the given subcommand(s)"
  hasHelp := false

/-- The usage line of the command that asks for help. -/
def helpUsage : String := s!"{program} help [COMMAND]..."

/-- The help text of the command that asks for help. -/
def helpHelp : String :=
  s!"{helpSpec.about}\n\nUsage: {helpUsage}\n"
    ++ helpPart "Arguments" [("[COMMAND]...", "Print help for the subcommand(s)")]

/-- The names of all commands. -/
def commandNames : List String :=
  specs.map Spec.name ++ [helpSpec.name]

/-- The usage line of the program, with some named arguments as if they were needed. -/
def programUsage (named : List Named) : String :=
  " ".intercalate ([program] ++ named.map Named.shown ++ ["<COMMAND>"])

/-- The help text of the program. -/
def programHelp : String :=
  s!"{about}\n\nUsage: {programUsage []}\n"
    ++ helpPart "Commands" ((specs ++ [helpSpec]).map fun s => (s.name, s.about))
    ++ helpPart "Options" [(helpOption.label, helpOption.description)]

end DavCourier.Command
