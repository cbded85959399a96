set_option autoImplicit false

/-!
The arguments of the command line: global flags, one subcommand, and its own flags and
options. An option takes its value from the next argument, behind an equals sign, or
directly behind its letter; letters of flags may be put together. Nothing may be given
twice. Two options fall back to variables of the environment.
-/

namespace Stanza.Command

inductive Subcommand where
  | generate
  | check
  | schema
deriving DecidableEq, Repr

namespace Subcommand

def text : Subcommand → String
  | .generate => "generate"
  | .check => "check"
  | .schema => "schema"

def ofText? (text : String) : Option Subcommand :=
  [Subcommand.generate, .check, .schema].find? fun command => command.text = text

end Subcommand

inductive Parameter where
  | verbose
  | quiet
  | logJson
  | help
  | version
  | config
  | schemas
  | modules
  | output
  | rejectCollisions
  | bracedObjects
  | sequential
  | provider
  | json
deriving DecidableEq, Repr

namespace Parameter

def long : Parameter → String
  | .verbose => "verbose"
  | .quiet => "quiet"
  | .logJson => "log-json"
  | .help => "help"
  | .version => "version"
  | .config => "config"
  | .schemas => "schemas"
  | .modules => "modules"
  | .output => "output"
  | .rejectCollisions => "reject-collisions"
  | .bracedObjects => "braced-objects"
  | .sequential => "sequential"
  | .provider => "provider"
  | .json => "json"

def letter? : Parameter → Option Char
  | .verbose => some 'v'
  | .quiet => some 'q'
  | .help => some 'h'
  | .version => some 'V'
  | .config => some 'c'
  | .output => some 'o'
  | _ => none

def takesValue : Parameter → Bool
  | .config | .schemas | .modules | .output | .provider => true
  | _ => false

/-- Paths must not be empty. -/
def allows (parameter : Parameter) (value : String) : Bool :=
  parameter == .provider || value != ""

/-- The variable of the environment that stands in for an option. -/
def variableName? : Parameter → Option String
  | .config => some "TFGEN_CONFIG"
  | .output => some "TFGEN_OUTPUT"
  | _ => none

def globals : List Parameter := [.verbose, .quiet, .logJson, .help, .version]

/-- The parameters that may stand behind a subcommand, or before all of them. -/
def allowedIn : Option Subcommand → List Parameter
  | none => globals
  | some command =>
      globals ++
        [.config, .schemas, .modules, .output, .rejectCollisions, .bracedObjects, .sequential] ++
        match command with
        | .schema => [.provider, .json]
        | _ => []

end Parameter

inductive Request where
  | run (command : Subcommand) (given : List (Parameter × String))
  | version (command : Option Subcommand)
  | help (command : Option Subcommand)
deriving DecidableEq, Repr

/-- The arguments taken in so far, those of the current level apart. -/
structure Progress where
  command : Option Subcommand := none
  given : List (Parameter × String) := []
  /-- An option that waits for its value. -/
  waiting : Option Parameter := none

/-- One argument leads on, or ends the reading with a request, or is refused. -/
inductive Step where
  | next (progress : Progress)
  | done (request : Request)
  | refuse

namespace Progress

def find? (progress : Progress) (test : Parameter → Bool) : Option Parameter :=
  (Parameter.allowedIn progress.command).find? test

def give (progress : Progress) (parameter : Parameter) (value : String) : Option Progress :=
  if (progress.given.lookup parameter).isSome then none
  else some { progress with given := progress.given ++ [(parameter, value)] }

def giveValue (progress : Progress) (parameter : Parameter) (value : String) : Step :=
  if parameter.allows value then
    match progress.give parameter value with
    | some next => .next { next with waiting := none }
    | none => .refuse
  else .refuse

def giveSwitch (progress : Progress) (parameter : Parameter) : Step :=
  match parameter with
  | .help => .done (.help progress.command)
  | .version => .done (.version progress.command)
  | other =>
      match progress.give other "" with
      | some next => .next next
      | none => .refuse

def await (progress : Progress) (parameter : Parameter) : Step :=
  if (progress.given.lookup parameter).isSome then .refuse
  else .next { progress with waiting := some parameter }

def takeLong (progress : Progress) (name : String) (value : Option String) : Step :=
  match progress.find? fun parameter => parameter.long == name with
  | none => .refuse
  | some parameter =>
      match parameter.takesValue, value with
      | true, some value => progress.giveValue parameter value
      | true, none => progress.await parameter
      | false, some _ => .refuse
      | false, none => progress.giveSwitch parameter

def takeLetters (progress : Progress) : List Char → Step
  | [] => .next progress
  | letter :: rest =>
      match progress.find? fun parameter => parameter.letter? == some letter with
      | none => .refuse
      | some parameter =>
          if parameter.takesValue then
            match rest with
            | [] => progress.await parameter
            | '=' :: value => progress.giveValue parameter (String.ofList value)
            | value => progress.giveValue parameter (String.ofList value)
          else
            match progress.giveSwitch parameter with
            | .next next => next.takeLetters rest
            | other => other

def take (progress : Progress) (argument : String) : Step :=
  let chars := argument.toList
  match progress.waiting with
  | some parameter =>
      match chars with
      | '-' :: _ :: _ => .refuse
      | _ => progress.giveValue parameter argument
  | none =>
      match chars with
      | '-' :: '-' :: rest =>
          let name := rest.takeWhile fun c => c ≠ '='
          let value := match rest.drop name.length with
            | [] => none
            | _ :: value => some (String.ofList value)
          progress.takeLong (String.ofList name) value
      | '-' :: letter :: rest => progress.takeLetters (letter :: rest)
      | _ =>
          match progress.command, Subcommand.ofText? argument with
          | none, some command => .next { command := some command }
          | none, none => .refuse
          | some _, _ => .refuse

def addVariables (environment : List (String × String)) :
    List Parameter → List (Parameter × String) → Option (List (Parameter × String))
  | [], given => some given
  | parameter :: rest, given =>
      let fallback := parameter.variableName?.bind fun name => environment.lookup name
      match given.lookup parameter, fallback with
      | none, some value =>
          if parameter.allows value then
            addVariables environment rest (given ++ [(parameter, value)])
          else none
      | _, _ => addVariables environment rest given

def finish (environment : List (String × String)) (progress : Progress) : Option Request :=
  match progress.command, progress.waiting with
  | some command, none =>
      (addVariables environment [.config, .output] progress.given).map (.run command)
  | _, _ => none

def awaitsCommand (progress : Progress) : Bool :=
  progress.command.isNone && progress.waiting.isNone

/-- What is asked for behind the word for help: all of it, or one subcommand. -/
def readHelp : List String → Option Request
  | [] => some (.help none)
  | [name] =>
      if name = "help" then some (.help none)
      else (Subcommand.ofText? name).map fun command => .help (some command)
  | _ => none

/-- Takes the arguments in order. Behind two lone dashes there may be nothing. -/
def read (environment : List (String × String)) :
    Progress → List String → Option Request
  | progress, [] => progress.finish environment
  | progress, "--" :: rest =>
      if rest = [] then progress.finish environment else none
  | progress, argument :: rest =>
      if progress.awaitsCommand && argument == "help" then readHelp rest
      else match progress.take argument with
        | .next next => read environment next rest
        | .done request => some request
        | .refuse => none

end Progress

def readArguments (environment : List (String × String)) (arguments : List String) :
    Option Request :=
  Progress.read environment {} arguments

end Stanza.Command
