import Excerpt.Record

/-!
# Command-line arguments

From the words of a command line to a `Command`, or the `Stop` that ends the reading.

Words are read from left to right.  A word that needs none before it to be settled is settled at
once; the values of an option or of positional arguments wait until the next word shows that they
are complete (`Reader.settle`), so an unknown option is reported before a bad value in front of it.
-/

namespace Excerpt.CommandLine

/-- How a grammar is described on a command line. -/
structure GrammarArguments where
  template : String
  /-- Components defined by regular expressions, in order. -/
  defined : List (String × String)
  /-- White space between steps is not skipped. -/
  strict : Bool
  deriving DecidableEq, Repr

/-- What the program is asked to do. -/
inductive Command where
  /-- Print a record for every match in some files. -/
  | scan (grammar : GrammarArguments) (paths : List String) (format : Format)
  /-- Compile a template and report what is wrong with it. -/
  | check (grammar : GrammarArguments)
  /-- List the components that are always at hand. -/
  | listComponents
  deriving DecidableEq, Repr

/-- Why the reading of a command line ends without a command. -/
inductive Stop where
  | missingRequiredArgument
  | unknownArgument
  | invalidSubcommand
  | invalidValue
  | valueValidation
  | argumentConflict
  | tooManyValues
  | displayHelp
  | displayVersion
  | displayHelpOnMissingSubcommand
  deriving DecidableEq, Repr

/-- The commands that take a grammar or nothing. -/
inductive Subcommand where
  | scan
  | check
  | listComponents
  deriving DecidableEq, Repr

namespace Subcommand

/-- The command of a name. -/
def ofName? (name : String) : Option Subcommand :=
  if name = "scan" then some scan
  else if name = "check" then some check
  else if name = "list-components" then some listComponents
  else none

def takesGrammar : Subcommand → Bool
  | listComponents => false
  | _ => true

end Subcommand

/-! ## Values -/

/-- A component definition: a name, the first equals sign, and a regular expression. -/
def definition? (word : String) : Option (String × String) :=
  let name := word.toList.takeWhile (· != '=')
  match word.toList.drop name.length with
  | _ :: pattern =>
    if name.isEmpty then none else some (String.ofList name, String.ofList pattern)
  | [] => none

/-- A record format by name. -/
def format? (word : String) : Option Format :=
  if word = "json" then some .json
  else if word = "yaml" then some .yaml
  else none

/-- An option that takes a value. -/
inductive ValueOption where
  | define
  | format
  deriving DecidableEq, Repr

/-- Words that wait to be settled. -/
inductive Pending where
  | nothing
  /-- An option, with its value once that is read. -/
  | option (name : ValueOption) (value : Option String)
  | template (word : String)
  /-- Paths, the last one first. -/
  | paths (words : List String)
  deriving DecidableEq, Repr

/-- What was read of the arguments of a command. -/
structure Reader where
  subcommand : Subcommand
  pending : Pending
  template : Option String
  paths : List String
  defined : List (String × String)
  strict : Bool
  format : Option Format
  /-- Only positional arguments follow. -/
  positionalOnly : Bool

namespace Reader

/-- Before the first argument of a command. -/
def start (subcommand : Subcommand) : Reader :=
  ⟨subcommand, .nothing, none, [], [], false, none, false⟩

/-- Gives an option its value. -/
def giveValue (r : Reader) (name : ValueOption) (word : String) : Except Stop Reader :=
  match name with
  | .define =>
    match definition? word with
    | some d => .ok { r with defined := r.defined ++ [d] }
    | none => .error .valueValidation
  | .format =>
    if r.format.isSome then .error .argumentConflict
    else
      match format? word with
      | some f => .ok { r with format := some f }
      | none => .error .invalidValue

/-- Settles the words that wait. -/
def settle (r : Reader) : Except Stop Reader :=
  let r' := { r with pending := .nothing }
  match r.pending with
  | .nothing => .ok r'
  | .option _ none => .error .invalidValue
  | .option name (some word) => r'.giveValue name word
  | .template word => .ok { r' with template := some word }
  | .paths words =>
    if words.contains "" then .error .invalidValue
    else .ok { r' with paths := r'.paths ++ words.reverse }

/-- An option that takes a value, which may be attached to it. -/
def valueOption (r : Reader) (name : ValueOption) (attached : Option String) :
    Except Stop Reader :=
  match r.settle with
  | .error stop => .error stop
  | .ok r =>
    match attached with
    | some word => r.giveValue name word
    | none => .ok { r with pending := .option name none }

/-- The option that turns off skipping white space. -/
def setStrict (r : Reader) : Except Stop Reader :=
  match r.settle with
  | .error stop => .error stop
  | .ok r => if r.strict then .error .argumentConflict else .ok { r with strict := true }

/-- The request for help. -/
def help (r : Reader) : Except Stop Reader :=
  match r.settle with
  | .error stop => .error stop
  | .ok _ => .error .displayHelp

/-- An option by its long name, with what follows an equals sign behind it. -/
def longOption (r : Reader) (name : Text) (attached : Option String) : Except Stop Reader :=
  let name := String.ofList name
  if name = "help" then if attached.isSome then .error .tooManyValues else r.help
  else if name = "define" && r.subcommand.takesGrammar then r.valueOption .define attached
  else if name = "whitespace-sensitive" && r.subcommand.takesGrammar then
    if attached.isSome then .error .tooManyValues else r.setStrict
  else if name = "format" && r.subcommand = .scan then r.valueOption .format attached
  else .error .unknownArgument

/-- Options by their letters, the last of which may have a value attached. -/
def shortOptions (r : Reader) : Text → Except Stop Reader
  | [] => .ok r
  | letter :: rest =>
    if letter = 'h' then r.help
    else if letter = 'd' && r.subcommand.takesGrammar then
      match rest with
      | [] => r.valueOption .define none
      | '=' :: value => r.valueOption .define (some (String.ofList value))
      | value => r.valueOption .define (some (String.ofList value))
    else .error .unknownArgument

/-- A positional argument. -/
def positional (r : Reader) (word : String) : Except Stop Reader :=
  match r.pending with
  | .paths words => .ok { r with pending := .paths (word :: words) }
  | _ =>
    let isFirst := r.template.isNone && (match r.pending with
      | .template _ => false
      | _ => true)
    let room := r.subcommand = .scan || (r.subcommand = .check && isFirst)
    if !room then .error .unknownArgument
    else
      match r.settle with
      | .error stop => .error stop
      | .ok r => .ok { r with pending := if isFirst then .template word else .paths [word] }

/-- One more word. -/
def word (r : Reader) (w : String) : Except Stop Reader :=
  if r.positionalOnly then r.positional w
  else
    match w.toList with
    | ['-', '-'] => .ok { r with positionalOnly := true }
    | '-' :: '-' :: long =>
      let name := long.takeWhile (· != '=')
      let attached :=
        match long.drop name.length with
        | _ :: value => some (String.ofList value)
        | [] => none
      r.longOption name attached
    | '-' :: c :: rest => r.shortOptions (c :: rest)
    | _ =>
      match r.pending with
      | .option name none => .ok { r with pending := .option name (some w) }
      | _ => r.positional w

/-- All words of a command. -/
def words (r : Reader) : List String → Except Stop Reader
  | [] => r.settle
  | w :: rest =>
    match r.word w with
    | .error stop => .error stop
    | .ok r => r.words rest

/-- The command, once all words are settled. -/
def command? (r : Reader) : Except Stop Command :=
  match r.subcommand, r.template with
  | .listComponents, _ => .ok .listComponents
  | _, none => .error .missingRequiredArgument
  | .check, some template => .ok (.check ⟨template, r.defined, r.strict⟩)
  | .scan, some template =>
    if r.paths.isEmpty then .error .missingRequiredArgument
    else .ok (.scan ⟨template, r.defined, r.strict⟩ r.paths (r.format.getD .json))

end Reader

/-! ## Whole command lines -/

/-- The words behind `help` name a command, or nothing. -/
def helpOn : List String → Stop
  | [] => .displayHelp
  | [name] =>
    if (Subcommand.ofName? name).isSome || name = "help" then .displayHelp else .invalidSubcommand
  | _ => .invalidSubcommand

/-- A word in front of the name of a command, which can only be a request or a mistake. -/
def frontWord (word : String) : Stop :=
  match word.toList with
  | '-' :: '-' :: long =>
    let name := String.ofList (long.takeWhile (· != '='))
    let attached := long.contains '='
    if name = "help" then if attached then .tooManyValues else .displayHelp
    else if name = "version" then if attached then .tooManyValues else .displayVersion
    else .unknownArgument
  | '-' :: letter :: _ =>
    if letter = 'h' then .displayHelp
    else if letter = 'V' then .displayVersion
    else .unknownArgument
  | _ => .invalidSubcommand

/-- The command that the words of a command line ask for. -/
def parse : List String → Except Stop Command
  | [] => .error .displayHelpOnMissingSubcommand
  | ["--"] => .error .displayHelpOnMissingSubcommand
  | "--" :: word :: _ =>
    .error <|
      if (Subcommand.ofName? word).isSome || word = "help" then .unknownArgument
      else .invalidSubcommand
  | word :: rest =>
    if word = "help" then .error (helpOn rest)
    else
      match Subcommand.ofName? word with
      | none => .error (frontWord word)
      | some subcommand =>
        match (Reader.start subcommand).words rest with
        | .error stop => .error stop
        | .ok r => r.command?

end Excerpt.CommandLine
