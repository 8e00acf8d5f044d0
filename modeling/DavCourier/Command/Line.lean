import DavCourier.Command.Misuse
import DavCourier.Command.Similarity

/-!
# Reading a command line

`Invocation.read` takes the words of a command line apart : the first one names a command
and the others are its arguments, by place or by name. After `--` all words are arguments
by place. What is given is settled one argument at a time, so that the usage line of a
misuse shows what was settled before it.
-/

namespace DavCourier.Command

/-- An argument that a command line gives. -/
inductive Given where
  | place (name value : String)
  | named (option : Named) (value : Option String)
  deriving DecidableEq, Repr

/-- Whether the argument is a named one. -/
def Given.isNamed (option : Named) : Given → Bool
  | .named o _ => o.long = option.long
  | .place _ _ => false

/-- The arguments so far. The last one is settled when the next one comes. -/
structure Progress where
  settled : List Given := []
  pending : Option Given := none
  /-- Whether the next word is the value of the pending argument. -/
  awaiting : Bool := false
  /-- How many arguments were given by place. -/
  places : Nat := 0
  deriving DecidableEq, Repr

/-- A long argument : its name and the value after the first equals sign. -/
def long? (word : String) : Option (String × Option String) :=
  match word.toList with
  | '-' :: '-' :: c :: cs =>
    match (c :: cs).span (· ≠ '=') with
    | (name, _ :: value) => some (String.ofList name, some (String.ofList value))
    | (name, []) => some (String.ofList name, none)
  | _ => none

/-- The letters of short arguments. -/
def short? (word : String) : Option (List Char) :=
  match word.toList with
  | '-' :: '-' :: _ => none
  | '-' :: c :: cs => some (c :: cs)
  | _ => none

namespace Progress

/-- Settles a named argument, which may be given once. -/
def settleNamed (spec : Spec) (p : Progress) (option : Named) (value : Option String) :
    Progress × Option Misuse :=
  if option.value.isSome && value.isNone then (p, some (.missingValue option.shown))
  else if p.settled.any (Given.isNamed option) then
    ({ p with settled := p.settled.filter fun g => !g.isNamed option },
      some (.repeated option.shown spec.usage))
  else ({ p with settled := p.settled ++ [.named option value] }, none)

/-- Settles the pending argument. -/
def settle (spec : Spec) (p : Progress) : Progress × Option Misuse :=
  let cleared := { p with pending := none, awaiting := false }
  match p.pending with
  | none => (cleared, none)
  | some (.place name value) =>
    ({ cleared with settled := cleared.settled ++ [.place name value] }, none)
  | some (.named option value) => cleared.settleNamed spec option value

/-- Settles the pending argument, or stops. -/
def settled? (spec : Spec) (p : Progress) : Except Misuse Progress :=
  match p.settle spec with
  | (p, none) => .ok p
  | (_, some misuse) => .error misuse

/-- The named arguments that are settled. -/
def namedOnes (p : Progress) : List Named :=
  p.settled.filterMap fun
    | .named option _ => some option
    | .place _ _ => none

/-- The names of the arguments by place that are settled. -/
def placeNames (p : Progress) : List String :=
  p.settled.filterMap fun
    | .place name _ => some name
    | .named _ _ => none

/-- The usage line with the settled optional arguments, and more named ones, as if they
were needed. -/
def usageWith (spec : Spec) (p : Progress) (more : List Named) : String :=
  let optional := p.placeNames.filter fun name =>
    spec.positionals.any fun q => q.name = name && !q.required
  spec.usageWith (p.namedOnes ++ more) optional

/-- Takes a named argument, with the value that is attached to it. -/
def takeNamed (spec : Spec) (p : Progress) (option : Named) (value : Option String) :
    Except Misuse Progress := do
  let p ← p.settled? spec
  if option.long = helpOption.long then .error (.help spec.helpText)
  else if option.value.isSome && value.isNone then
    return { p with pending := some (.named option none), awaiting := true }
  else
    match p.settleNamed spec option value with
    | (p, none) => .ok p
    | (_, some misuse) => .error misuse

/-- The tip to give a word by place. -/
def placeTip (spec : Spec) (word : String) : Option String :=
  if spec.positionals.isEmpty then none
  else some s!"to pass '{word}' as a value, use '-- {word}'"

/-- The answer to a long argument that the command does not have. -/
def unknownLong (spec : Spec) (p : Progress) (name : String) : Misuse :=
  let p := (p.settle spec).1
  let word := s!"--{name}"
  match (suggestions name (spec.named.map Named.long)).getLast? with
  | some long =>
    .unknownArgument word (Misuse.similarTip "argument" [s!"--{long}"])
      (p.usageWith spec (spec.named.filter fun o => o.long = long))
  | none => .unknownArgument word (placeTip spec word) (p.usageWith spec [])

/-- Takes a long argument. -/
def takeLong (spec : Spec) (p : Progress) (name : String) (value : Option String) :
    Except Misuse Progress :=
  match spec.named.find? fun o => o.long = name with
  | none => .error (p.unknownLong spec name)
  | some option =>
    match option.value, value with
    | none, some v => .error (.unwantedValue v option.shown (p.usageWith spec [option]))
    | _, _ => p.takeNamed spec option value

/-- The value that is attached to a short argument, after an equals sign or without one. -/
def attached : List Char → Option String
  | [] => none
  | '=' :: cs => some (String.ofList cs)
  | cs => some (String.ofList cs)

/-- Takes short arguments that are written together. What follows one with a value is the
value. -/
def takeShort (spec : Spec) (p : Progress) : List Char → Except Misuse Progress
  | [] => .ok p
  | c :: cs =>
    match spec.named.find? fun o => o.short = some c with
    | none =>
      let word := String.ofList ['-', c]
      .error (.unknownArgument word (placeTip spec word) spec.usage)
    | some option =>
      if option.value.isSome then p.takeNamed spec option (attached cs)
      else do
        let p ← p.takeNamed spec option none
        p.takeShort spec cs

/-- Takes a word as an argument by place. -/
def takePlaced (spec : Spec) (p : Progress) (word : String) : Except Misuse Progress :=
  match spec.positionals[p.places]? with
  | none => .error (.unknownArgument word none spec.usage)
  | some place => do
    let p ← p.settled? spec
    return { p with pending := some (.place place.name word), places := p.places + 1 }

/-- Takes a word that may be the value of the pending argument. -/
def takeWord (spec : Spec) (p : Progress) (word : String) : Except Misuse Progress :=
  match p.awaiting, p.pending with
  | true, some (.named option _) =>
    .ok { p with pending := some (.named option (some word)), awaiting := false }
  | _, _ => p.takePlaced spec word

/-- Takes the words of a command. -/
def takeAll (spec : Spec) (p : Progress) (trailing : Bool) :
    List String → Except Misuse Progress
  | [] => p.settled? spec
  | word :: words =>
    if trailing then do
      let p ← p.takePlaced spec word
      p.takeAll spec true words
    else if word = "--" then p.takeAll spec true words
    else
      match long? word, short? word with
      | some (name, value), _ => do
        let p ← p.takeLong spec name value
        p.takeAll spec false words
      | none, some letters => do
        let p ← p.takeShort spec letters
        p.takeAll spec false words
      | none, none => do
        let p ← p.takeWord spec word
        p.takeAll spec false words

/-- The value of an argument by place. -/
def place? (p : Progress) (name : String) : Option String :=
  p.settled.findSome? fun
    | .place n value => if n = name then some value else none
    | .named _ _ => none

/-- The value of an argument by place, empty if it is not given. -/
def place (p : Progress) (name : String) : String :=
  (p.place? name).getD ""

/-- Whether a named argument is given. -/
def has (p : Progress) (long : String) : Bool :=
  p.namedOnes.any fun o => o.long = long

/-- The value of a named argument. -/
def value? (p : Progress) (long : String) : Option String :=
  p.settled.findSome? fun
    | .named o value => if o.long = long then value else none
    | .place _ _ => none

/-- Refuses when arguments that are needed are missing. -/
def complete (spec : Spec) (p : Progress) : Except Misuse Progress :=
  let missing := spec.positionals.filter fun q => q.required && (p.place? q.name).isNone
  if missing.isEmpty then .ok p
  else .error (.missingArguments (missing.map Positional.angled) spec.usage)

end Progress

/-- The arguments that words give a command. -/
def readArguments (spec : Spec) (words : List String) : Except Misuse Progress := do
  let p ← Progress.takeAll spec {} false words
  p.complete spec

/-- What a command line asks to be done. -/
inductive Invocation where
  | put (file resource : String)
  | putDirectory (directory destination : String)
  | get (resource destination : String)
  | list (directory : String) (json : Bool)
  | check (resource : String)
  | make (directory : String)
  | probe (path depth : String)
  deriving DecidableEq, Repr

namespace Invocation

/-- What a command with these arguments does. -/
def ofArguments (name : String) (p : Progress) : Invocation :=
  if name = putSpec.name then .put (p.place "file") (p.place "resource")
  else if name = putDirectorySpec.name then
    .putDirectory (p.place "directory") (p.place "destination")
  else if name = getSpec.name then .get (p.place "resource") (p.place "destination")
  else if name = listSpec.name then .list (p.place "directory") (p.has "json")
  else if name = existsSpec.name then .check (p.place "resource")
  else if name = makeSpec.name then .make (p.place "directory")
  else .probe (p.place "path") ((p.value? "depth").getD "1")

/-- The answer to asking for help about commands. -/
def helpAbout : List String → Misuse
  | [] => .help programHelp
  | name :: rest =>
    match specs.find? fun s => s.name = name with
    | some spec =>
      match rest with
      | [] => .help spec.helpText
      | inner :: _ => .unknownCommand inner [] spec.usage true
    | none =>
      if name = helpSpec.name then
        match rest with
        | [] => .help helpHelp
        | inner :: _ => .unknownCommand inner [] helpUsage false
      else .unknownCommand name [] (programUsage []) true

/-- The answer to a word in the place of a command that is none. -/
def unknownCommand (word : String) : Misuse :=
  .unknownCommand word (suggestions word commandNames) (programUsage []) true

/-- The command among later words that comes first and has an argument like a name. -/
def commandWith? (name : String) (words : List String) : Option (String × String) :=
  words.findSome? fun word =>
    (specs.find? fun s => s.name = word).bind fun spec =>
      ((suggestions name (spec.named.map Named.long)).getLast?).map fun long => (word, long)

/-- The answer to a long argument before the command. -/
def longBefore (name : String) (value : Option String) (words : List String) : Misuse :=
  if name = helpOption.long then
    match value with
    | none => .help programHelp
    | some v => .unwantedValue v helpOption.shown (programUsage [helpOption])
  else
    let word := s!"--{name}"
    match suggestions name [helpOption.long] with
    | long :: _ =>
      .unknownArgument word (Misuse.similarTip "argument" [s!"--{long}"])
        (programUsage [helpOption])
    | [] =>
      .unknownArgument word
        ((commandWith? name words).map fun (command, long) => s!"'{command} --{long}' exists")
        (programUsage [])

/-- The answer to short arguments before the command. -/
def shortBefore : List Char → Misuse
  | [] => .help programHelp
  | c :: _ =>
    if some c = helpOption.short then .help programHelp
    else .unknownArgument (String.ofList ['-', c]) none (programUsage [])

/-- The answer to words after `--` in the place of a command. -/
def afterDashes : List String → Misuse
  | [] => .noCommand
  | word :: _ =>
    if commandNames.contains word then
      .unknownArgument word
        (some s!"subcommand '{word}' exists; to use it, remove the '--' before it")
        (programUsage [])
    else unknownCommand word

/-- What the words of a command line ask for. -/
def read : List String → Except Misuse Invocation
  | [] => .error .noCommand
  | word :: words =>
    match specs.find? fun s => s.name = word with
    | some spec => (readArguments spec words).map (ofArguments spec.name)
    | none =>
      if word = helpSpec.name then .error (helpAbout words)
      else if word = "--" then .error (afterDashes words)
      else
        match long? word, short? word with
        | some (name, value), _ => .error (longBefore name value words)
        | none, some letters => .error (shortBefore letters)
        | none, none => .error (unknownCommand word)

end Invocation

end DavCourier.Command
