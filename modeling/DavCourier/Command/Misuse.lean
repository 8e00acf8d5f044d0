import DavCourier.Command.Spec

/-!
# Command lines that ask for nothing to be done

A `Misuse` is why a command line is not carried out : it asks for help, or the program does
not understand it. `Misuse.message` is what the user reads.
-/

namespace DavCourier.Command

/-- Why a command line is not carried out. -/
inductive Misuse where
  | help (text : String)
  | noCommand
  /-- Asking for help about a command has no help of its own. -/
  | unknownCommand (name : String) (similar : List String) (usage : String) (hasHelp : Bool)
  | unknownArgument (argument : String) (tip : Option String) (usage : String)
  | unwantedValue (value argument usage : String)
  | repeated (argument usage : String)
  | missingValue (argument : String)
  | missingArguments (arguments : List String) (usage : String)
  deriving DecidableEq, Repr

namespace Misuse

/-- A name for the sort of misuse. -/
def kind : Misuse → String
  | help _ => "DisplayHelp"
  | noCommand => "MissingSubcommand"
  | unknownCommand _ _ _ _ => "InvalidSubcommand"
  | unknownArgument _ _ _ => "UnknownArgument"
  | unwantedValue _ _ _ => "TooManyValues"
  | repeated _ _ => "ArgumentConflict"
  | missingValue _ => "InvalidValue"
  | missingArguments _ _ => "MissingRequiredArgument"

/-- The status that the program ends with. -/
def exitCode : Misuse → Nat
  | help _ => 0
  | _ => 2

/-- Names in quotes, with commas between them. -/
def quoted (names : List String) : String :=
  ", ".intercalate (names.map fun n => s!"'{n}'")

/-- The tip that names similar things. -/
def similarTip (what : String) : List String → Option String
  | [] => none
  | [name] => some s!"a similar {what} exists: '{name}'"
  | names => some s!"some similar {what}s exist: {quoted names}"

/-- A tip in a paragraph of its own, if there is one. -/
def tipPart : Option String → String
  | some tip => s!"\n\n  tip: {tip}"
  | none => ""

/-- The usage line in a paragraph of its own. -/
def usagePart (usage : String) : String :=
  s!"\n\nUsage: {usage}"

/-- The last paragraph, which says where help is. -/
def helpPart : String := "\n\nFor more information, try '--help'.\n"

/-- What the user reads. -/
def message : Misuse → String
  | help text => text
  | noCommand =>
    s!"error: '{program}' requires a subcommand but one was not provided\n  [subcommands: "
      ++ ", ".intercalate commandNames ++ "]" ++ usagePart (programUsage []) ++ helpPart
  | unknownCommand name similar usage hasHelp =>
    s!"error: unrecognized subcommand '{name}'" ++ tipPart (similarTip "subcommand" similar)
      ++ usagePart usage ++ (if hasHelp then helpPart else "\n")
  | unknownArgument argument tip usage =>
    s!"error: unexpected argument '{argument}' found" ++ tipPart tip ++ usagePart usage
      ++ helpPart
  | unwantedValue value argument usage =>
    s!"error: unexpected value '{value}' for '{argument}' found; no more were expected"
      ++ usagePart usage ++ helpPart
  | repeated argument usage =>
    s!"error: the argument '{argument}' cannot be used multiple times" ++ usagePart usage
      ++ helpPart
  | missingValue argument =>
    s!"error: a value is required for '{argument}' but none was supplied" ++ helpPart
  | missingArguments arguments usage =>
    "error: the following required arguments were not provided:"
      ++ String.join (arguments.map fun a => s!"\n  {a}") ++ usagePart usage ++ helpPart

end Misuse

end DavCourier.Command
