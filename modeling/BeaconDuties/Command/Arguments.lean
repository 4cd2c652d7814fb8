import BeaconDuties.Command.EpochSelector
import BeaconDuties.Command.Url
import BeaconDuties.Text.Pieces
import BeaconDuties.Node.Identifier
import BeaconDuties.Survey.Walk

/-!
The arguments of the command line.

A command line names a task. Options that hold for all tasks may stand before the name of the task
or after it; those of the task stand after it. Both places are read by the same rules (`Level`), and
what is said after the name of the task counts more (`Arguments.read`).

An option takes its value from behind an equals sign or from the next argument. A value is read only
when the argument after it has been looked at, so that an unknown argument is reported before a
wrong value that precedes it.
-/

namespace BeaconDuties

/-- What a program can be asked to do. -/
inductive Task where
  | epochSummary
  | blockAnalyze
  | validatorSummary
deriving DecidableEq, Repr

namespace Task

/-- All tasks. -/
def all : List Task := [epochSummary, blockAnalyze, validatorSummary]

/-- The name of a task. -/
def name : Task → String
  | epochSummary => "epoch-summary"
  | blockAnalyze => "block-analyze"
  | validatorSummary => "validator-summary"

/-- The task of a name. -/
def named? (text : String) : Option Task := all.find? (·.name == text)

end Task

/-- A task with all that it needs to know. -/
inductive Command where
  /-- Summarize an epoch, for the named validators or for all. -/
  | epochSummary (epoch : EpochSelector) (validators : List ValidatorId)
  /-- Analyze a block. -/
  | blockAnalyze (id : BlockId)
  /-- Summarize the duties of the named validators. -/
  | validatorSummary (epoch : EpochSelector) (validators : List ValidatorId)
deriving DecidableEq

/-- How much is logged. -/
inductive LogLevel where
  | warn
  | info
  | debug
deriving DecidableEq, Repr

/-- How a report is given. -/
structure OutputOptions where
  /-- As JSON. -/
  json : Bool
  /-- With more detail. -/
  verbose : Bool
  /-- Not at all. -/
  quiet : Bool
  /-- Whether log messages are colored in any case. -/
  alwaysWriteStyle : Bool
deriving DecidableEq, Repr

/-- How much is logged. -/
def OutputOptions.logLevel (options : OutputOptions) : LogLevel :=
  if options.verbose then .debug else if options.quiet then .warn else .info

/-- What a command line says. -/
structure Arguments where
  url : Url
  /-- How long the whole run may take, in milliseconds. -/
  timeout : UInt64
  maxWalk : UInt64
  output : OutputOptions
  command : Command
deriving DecidableEq

/-- Why a command line cannot be followed. -/
inductive UsageError where
  /-- Help was asked for. -/
  | displayHelp
  /-- Nothing was asked for, and help is shown instead. -/
  | displayHelpInstead
  | unknownArgument
  | invalidSubcommand
  | missingSubcommand
  /-- A value has the wrong form. -/
  | valueValidation
  /-- A value is missing. -/
  | invalidValue
  | missingRequiredArgument
  /-- Something is said twice, or two things exclude each other. -/
  | argumentConflict
  /-- A value is given where none is expected. -/
  | tooManyValues
deriving DecidableEq, Repr

/-- The name of the kind of an error. -/
def UsageError.name : UsageError → String
  | displayHelp => "DisplayHelp"
  | displayHelpInstead => "DisplayHelpOnMissingArgumentOrSubcommand"
  | unknownArgument => "UnknownArgument"
  | invalidSubcommand => "InvalidSubcommand"
  | missingSubcommand => "MissingSubcommand"
  | valueValidation => "ValueValidation"
  | invalidValue => "InvalidValue"
  | missingRequiredArgument => "MissingRequiredArgument"
  | argumentConflict => "ArgumentConflict"
  | tooManyValues => "TooManyValues"

namespace Arguments

/-! ## Options -/

/-- An option without a value. -/
inductive Flag where
  | json
  | verbose
  | quiet
  | alwaysWriteStyle
deriving DecidableEq, Repr

/-- The option without a value of a name. -/
def Flag.named? : String → Option Flag
  | "json" => some json
  | "verbose" => some verbose
  | "quiet" => some quiet
  | "always-write-style" => some alwaysWriteStyle
  | _ => none

/-- An option with a value. -/
inductive Setting where
  | connection
  | timeout
  | maxWalkSteps
  | epoch
  | validators
  | blockId
deriving DecidableEq, Repr

/-- Where arguments stand: before the name of the task, or after it. -/
abbrev Level := Option Task

/-- The option with a value of a name, if there is one on a level. -/
def Setting.named? (level : Level) : String → Option Setting
  | "connection" => some connection
  | "timeout" => some timeout
  | "max-walk-steps" => some maxWalkSteps
  | "epoch" =>
    if level = some .epochSummary ∨ level = some .validatorSummary then some epoch else none
  | "validators" =>
    if level = some .epochSummary ∨ level = some .validatorSummary then some validators else none
  | "block-id" => if level = some .blockAnalyze then some blockId else none
  | _ => none

/-- What has been said on a level. -/
structure Given where
  url : Option Url
  timeout : Option UInt64
  maxWalk : Option UInt64
  epoch : Option EpochSelector
  validators : Option (List ValidatorId)
  blockId : Option BlockId
  flags : List Flag

namespace Given

/-- Nothing. -/
def nothing : Given := ⟨none, none, none, none, none, none, []⟩

/-- Whether nothing has been said that holds for all tasks. -/
def isNothing (given : Given) : Bool :=
  given.url.isNone && given.timeout.isNone && given.maxWalk.isNone && given.flags.isEmpty

/-- Takes a value that may be said once. -/
def once {α : Type} (earlier value : Option α) : Except UsageError (Option α) :=
  match earlier, value with
  | some _, _ => .error .argumentConflict
  | none, none => .error .valueValidation
  | none, some value => .ok (some value)

/-- Takes the value of an option. -/
def set (given : Given) (text : String) : Setting → Except UsageError Given
  | .connection => do return { given with url := ← once given.url (Url.read? text) }
  | .timeout => do return { given with timeout := ← once given.timeout (Numeral.read? text) }
  | .maxWalkSteps => do
    return { given with maxWalk := ← once given.maxWalk (Numeral.read? text) }
  | .epoch => do
    return { given with epoch := ← once given.epoch (EpochSelector.read text).toOption }
  | .blockId => do return { given with blockId := ← once given.blockId (BlockId.read? text) }
  | .validators =>
    let pieces := (Text.pieces (· == ',') text.toList).map String.ofList
    match pieces.mapM ValidatorId.read? with
    | none => .error .valueValidation
    | some ids => .ok { given with validators := some (given.validators.getD [] ++ ids) }

/-- Takes an option without a value. -/
def raise (given : Given) (flag : Flag) : Except UsageError Given :=
  if given.flags.contains flag then .error .argumentConflict
  else .ok { given with flags := flag :: given.flags }

/-- Refuses options that exclude each other. -/
def checkConflicts (given : Given) : Except UsageError Unit :=
  if given.flags.contains .verbose && given.flags.contains .quiet then .error .argumentConflict
  else .ok ()

end Given

/-! ## Arguments one after another -/

/-- An argument by its form. -/
inductive Token where
  /-- Two hyphens: all that follows is no option. -/
  | escape
  /-- Two hyphens and a name, with a value behind an equals sign. -/
  | long (name : String) (value : Option String)
  /-- A hyphen and a letter. -/
  | short (letter : Char)
  | plain
deriving DecidableEq, Repr

/-- The form of an argument. -/
def Token.of (text : String) : Token :=
  match text.toList with
  | ['-', '-'] => .escape
  | '-' :: '-' :: rest =>
    let name := rest.takeWhile (· != '=')
    let value := rest.drop (name.length + 1)
    .long (String.ofList name)
      (if name.length = rest.length then none else some (String.ofList value))
  | '-' :: letter :: _ => .short letter
  | _ => .plain

/-- An option with its value, if it has come already, that has not been taken yet. -/
structure Pending where
  setting : Setting
  value : Option String

/-- What has been read on a level so far. -/
structure Progress where
  given : Given
  pending : Option Pending

namespace Progress

/-- Nothing. -/
def start : Progress := ⟨.nothing, none⟩

/-- Whether the next argument may be a value. -/
def awaitsValue (progress : Progress) : Bool :=
  (progress.pending.map (·.value.isNone)).getD false

/-- Whether the next argument is a value even if it starts with a hyphen: epochs are counted back
    with one. -/
def awaitsAnything (progress : Progress) : Bool :=
  (progress.pending.map fun x => x.value.isNone && x.setting = .epoch).getD false

/-- Takes an argument as the value of the last option. -/
def fill (progress : Progress) (text : String) : Progress :=
  { progress with pending := progress.pending.map fun x => { x with value := some text } }

/-- Takes the last option with its value. -/
def settle (progress : Progress) : Except UsageError Given :=
  match progress.pending with
  | none => .ok progress.given
  | some ⟨_, none⟩ => .error .invalidValue
  | some ⟨setting, some text⟩ => progress.given.set text setting

/-- Takes an option by its name. -/
def takeLong (level : Level) (progress : Progress) (name : String) (value : Option String) :
    Except UsageError Progress :=
  if name = "help" then
    if value.isSome then .error .tooManyValues
    else do
      let _ ← progress.settle
      throw .displayHelp
  else
    match Flag.named? name, Setting.named? level name with
    | some flag, _ =>
      if value.isSome then .error .tooManyValues
      else do return ⟨← (← progress.settle).raise flag, none⟩
    | none, some setting => do
      let given ← progress.settle
      match value with
      | some text => return ⟨← given.set text setting, none⟩
      | none => return ⟨given, some ⟨setting, none⟩⟩
    | none, none => .error .unknownArgument

/-- Takes an option by its letter. There is only one, which asks for help. -/
def takeShort {α : Type} (progress : Progress) (letter : Char) : Except UsageError α :=
  if letter = 'h' then do
    let _ ← progress.settle
    throw .displayHelp
  else .error .unknownArgument

end Progress

/-- What is wrong with an argument that is neither an option nor a task. -/
def strayError : Level → UsageError
  | none => .invalidSubcommand
  | some _ => .unknownArgument

/-- What is wrong with an argument after two hyphens. -/
def escapedError (level : Level) (text : String) : UsageError :=
  if text = "help" ∨ (Task.named? text).isSome then .unknownArgument else strayError level

/-- The answer to a question for help on tasks. -/
def helpError : List String → UsageError
  | [] => .displayHelp
  | [text] =>
    if text = "help" ∨ (Task.named? text).isSome then .displayHelp else .invalidSubcommand
  | _ => .invalidSubcommand

/-- Reads the arguments of a level, up to the name of a task. -/
def readLevel (level : Level) :
    Progress → List String → Except UsageError (Progress × Option (Task × List String))
  | progress, [] => .ok (progress, none)
  | progress, text :: rest =>
    if progress.awaitsAnything then readLevel level (progress.fill text) rest
    else
      match Token.of text with
      | .escape =>
        match rest with
        | [] => .ok (progress, none)
        | stray :: _ => .error (escapedError level stray)
      | .long name value => do readLevel level (← progress.takeLong level name value) rest
      | .short letter => progress.takeShort letter
      | .plain =>
        if progress.awaitsValue then readLevel level (progress.fill text) rest
        else if level.isSome then .error (strayError level)
        else
          match Task.named? text with
          | some task => .ok (progress, some (task, rest))
          | none => if text = "help" then .error (helpError rest) else .error (strayError level)

/-- Reads the arguments after the name of a task. -/
def readTask (task : Task) (texts : List String) : Except UsageError Given := do
  let (progress, _) ← readLevel (some task) .start texts
  let given ← progress.settle
  given.checkConflicts
  if task = .validatorSummary && given.validators.isNone then throw .missingRequiredArgument
  else return given

/-! ## The whole command line -/

/-- The node that is asked if none is named. -/
def defaultUrl : Url := ⟨"http", .hosted "localhost:5052" ⟨[[]]⟩, none, none⟩

/-- How long a run may take if nothing is said about it, in milliseconds. -/
def defaultTimeout : UInt64 := 30000

/-- The command of a task. -/
def commandOf (given : Given) : Task → Command
  | .epochSummary => .epochSummary (given.epoch.getD .current) (given.validators.getD [])
  | .blockAnalyze => .blockAnalyze (given.blockId.getD .head)
  | .validatorSummary =>
    .validatorSummary (given.epoch.getD .current) (given.validators.getD [])

/-- What is said before and after the name of a task; what is said after it counts more. -/
def combine (before after : Given) (task : Task) : Arguments :=
  let has (flag : Flag) := before.flags.contains flag || after.flags.contains flag
  { url := (after.url.or before.url).getD defaultUrl
    timeout := (after.timeout.or before.timeout).getD defaultTimeout
    maxWalk := (after.maxWalk.or before.maxWalk).getD Limits.usual.maxWalk
    output := ⟨has .json, has .verbose, has .quiet, has .alwaysWriteStyle⟩
    command := commandOf after task }

/-- Reads a command line. -/
def read (texts : List String) : Except UsageError Arguments := do
  let (progress, task) ← readLevel none .start texts
  match task with
  | some (task, rest) =>
    let after ← readTask task rest
    let before ← progress.settle
    before.checkConflicts
    return combine before after task
  | none =>
    let given ← progress.settle
    if given.isNothing then throw .displayHelpInstead else throw .missingSubcommand

end Arguments

end BeaconDuties
