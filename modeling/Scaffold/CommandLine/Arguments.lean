import Scaffold.CommandLine.Substitution

/-!
# Arguments of the command line

The program has one command, `generate`, with a project directory, a directory of templates, an
optional output directory, and any number of substitutions. Arguments are read from left to
right. The value of an option is looked at when the next argument is known to be one, so a wrong
value is not reported if an unknown argument follows it.
-/

namespace Scaffold.CommandLine

/-- What the command line asks for. -/
structure Arguments where
  verbose : Bool
  root : String
  templates : String
  output : Option String
  substitutions : List (String × String)
deriving Repr, DecidableEq

/-- The texts for tokens. The last substitution of a key counts. -/
def Arguments.texts (a : Arguments) : Table String := .ofPairs a.substitutions

/-- Why the command line asks for nothing that can be done. -/
inductive UsageError where
  | missingArgument
  | unknownArgument
  | unknownCommand
  | missingCommand
  /-- A value is missing or empty. -/
  | missingValue
  /-- A substitution is malformed. -/
  | invalidSubstitution (cause : SubstitutionError)
  /-- An option is given twice. -/
  | repeated
  /-- A flag is given a value. -/
  | unneededValue
  | help
  | version
  /-- There is no argument at all. -/
  | nothing
deriving Repr, DecidableEq

/-- What a value is for. -/
inductive Slot where
  | root
  | templates
  | output
  | substitution
deriving Repr, DecidableEq

/-- What has been read of the arguments of the command. -/
structure Draft where
  verbose : Bool := false
  root : Option String := none
  templates : Option String := none
  output : Option String := none
  substitutions : List (String × String) := []
  /-- A slot whose value is still to be looked at, or still to come. -/
  pending : Option (Slot × Option String) := none

namespace Draft

/-- A path, which may not be empty. -/
def path (text : String) : Except UsageError String :=
  if text.isEmpty then .error .missingValue else .ok text

/-- A slot that takes one value. -/
def once (old : Option String) (text : String) : Except UsageError (Option String) :=
  if old.isSome then .error .repeated else some <$> path text

/-- Puts a value into its slot. -/
def store (d : Draft) (slot : Slot) (text : String) : Except UsageError Draft :=
  match slot with
  | .root => return { d with root := ← once d.root text }
  | .templates => return { d with templates := ← once d.templates text }
  | .output => return { d with output := ← once d.output text }
  | .substitution =>
      match parseSubstitution text with
      | .ok pair => .ok { d with substitutions := d.substitutions ++ [pair] }
      | .error e => .error (.invalidSubstitution e)

/-- Looks at the value that is pending. -/
def settle (d : Draft) : Except UsageError Draft :=
  match d.pending with
  | none => .ok d
  | some (_, none) => .error .missingValue
  | some (slot, some text) => { d with pending := none }.store slot text

/-- Sets the flag for more output. -/
def beVerbose (d : Draft) : Except UsageError Draft := do
  let d ← d.settle
  if d.verbose then throw .repeated
  return { d with verbose := true }

/-- Starts to read an option, whose value may be attached to it. -/
def option (d : Draft) (slot : Slot) (attached : Option String) : Except UsageError Draft := do
  let d ← d.settle
  match attached with
  | some text => d.store slot text
  | none => return { d with pending := some (slot, none) }

/-- Whether the project directory has been given. -/
def hasRoot (d : Draft) : Bool :=
  d.root.isSome ||
    match d.pending with
    | some (.root, _) => true
    | _ => false

/-- An argument without a dash. -/
def positional (d : Draft) (text : String) : Except UsageError Draft := do
  if d.hasRoot then throw .unknownArgument
  let d ← d.settle
  return { d with pending := some (.root, some text) }

/-- The value of the option before, or an argument of its own. -/
def value (d : Draft) (text : String) : Except UsageError Draft :=
  match d.pending with
  | some (slot, none) => .ok { d with pending := some (slot, some text) }
  | _ => d.positional text

end Draft

/-- The option that a long name stands for. -/
def longSlot? (name : List Char) : Option Slot :=
  match String.ofList name with
  | "templates" => some .templates
  | "output" => some .output
  | "arg" => some .substitution
  | _ => none

/-- The option that a letter stands for. -/
def shortSlot? : Char → Option Slot
  | 't' => some .templates
  | 'o' => some .output
  | 'a' => some .substitution
  | _ => none

/-- The name of a long option and the value behind its equals sign. -/
def splitLong (cs : List Char) : List Char × Option String :=
  match cs.dropWhile (· != '=') with
  | [] => (cs, none)
  | _ :: value => (cs.takeWhile (· != '='), some (String.ofList value))

/-- The value that stands right behind the letter of an option. -/
def attachedValue : List Char → Option String
  | [] => none
  | '=' :: value => some (String.ofList value)
  | value => some (String.ofList value)

/-- A long option of the command, without its dashes. -/
def readLong (d : Draft) (cs : List Char) : Except UsageError Draft :=
  let (name, value) := splitLong cs
  match longSlot? name with
  | some slot => d.option slot value
  | none =>
      if name = "verbose".toList || name = "help".toList then
        if value.isSome then .error .unneededValue
        else if name = "verbose".toList then d.beVerbose
        else do
          let _ ← d.settle
          throw .help
      else .error .unknownArgument

/-- Letters of the command behind one dash. -/
def readShort (d : Draft) : List Char → Except UsageError Draft
  | [] => .ok d
  | c :: rest =>
      match shortSlot? c with
      | some slot => d.option slot (attachedValue rest)
      | none =>
          if c = 'v' then do readShort (← d.beVerbose) rest
          else if c = 'h' then do
            let _ ← d.settle
            throw .help
          else .error .unknownArgument

/-- One argument of the command, before the mark that ends the options. -/
def readWord (d : Draft) (text : String) : Except UsageError Draft :=
  match text.toList with
  | '-' :: '-' :: name => readLong d name
  | '-' :: c :: rest => readShort d (c :: rest)
  | _ => d.value text

/-- The arguments of the command. A double dash ends the options. -/
def readWords (d : Draft) : List String → Except UsageError Draft
  | [] => .ok d
  | text :: rest =>
      if text = "--" then rest.foldlM Draft.positional d
      else do readWords (← readWord d text) rest

/-- What the arguments of the command ask for. -/
def Draft.finish (d : Draft) (verbose : Bool) : Except UsageError Arguments := do
  let d ← d.settle
  match d.root, d.templates with
  | some root, some templates =>
      return { verbose := verbose || d.verbose, root, templates, output := d.output,
               substitutions := d.substitutions }
  | _, _ => throw .missingArgument

/-- The words after the command that shows help. -/
def readHelp : List String → UsageError
  | [] => .help
  | ["generate"] => .help
  | ["help"] => .help
  | _ => .unknownCommand

/-- Letters behind one dash, before the command. -/
def readTopShort (verbose : Bool) : List Char → Except UsageError Bool
  | [] => .ok verbose
  | c :: rest =>
      if c = 'v' then
        if verbose then .error .repeated else readTopShort true rest
      else if c = 'h' then .error .help
      else if c = 'V' then .error .version
      else .error .unknownArgument

/-- A long option before the command, without its dashes. -/
def readTopLong (verbose : Bool) (cs : List Char) : Except UsageError Bool :=
  let (name, value) := splitLong cs
  match String.ofList name with
  | "verbose" =>
      if value.isSome then .error .unneededValue
      else if verbose then .error .repeated
      else .ok true
  | "help" => .error (if value.isSome then .unneededValue else .help)
  | "version" => .error (if value.isSome then .unneededValue else .version)
  | _ => .error .unknownArgument

/-- The error of a command line that ends before its command. -/
def noCommand (verbose : Bool) : UsageError := if verbose then .missingCommand else .nothing

/-- Reads the command line. `verbose` says whether the flag for more output has been met. -/
def readArguments (verbose : Bool) : List String → Except UsageError Arguments
  | [] => .error (noCommand verbose)
  | text :: rest =>
      if text = "generate" then do (← readWords {} rest).finish verbose
      else if text = "help" then .error (readHelp rest)
      else if text = "--" then
        match rest with
        | [] => .error (noCommand verbose)
        | word :: _ =>
            .error (if word = "generate" || word = "help" then .unknownArgument
              else .unknownCommand)
      else
        match text.toList with
        | '-' :: '-' :: name => do readArguments (← readTopLong verbose name) rest
        | '-' :: c :: letters => do readArguments (← readTopShort verbose (c :: letters)) rest
        | _ => .error .unknownCommand

/-- Reads the command line. -/
def Arguments.read (words : List String) : Except UsageError Arguments :=
  readArguments false words

end Scaffold.CommandLine
