import Stanza.Artifact
import Stanza.Command.Arguments
import Stanza.Loading
import Stanza.Value.Printer

set_option autoImplicit false

/-!
The commands: generating artifacts, checking them, and listing schemas. A command works
on a file tree and gives its output, its exit code and the tree that it leaves behind.
The first phase that fails decides the exit code.
-/

namespace Stanza.Command

open Files

inductive Failure where
  | settings (path : String) (error : SettingsError)
  | schemas (path : String) (error : SchemaError)
  | modules (path : String) (error : ModuleError)
  | compile (error : ProjectError)
  | writing (directory : String) (error : FileError)
  | comparing (directory : String) (error : FileError)
  | outOfDate (names : List String)
  | unknownProvider (provider path : String)
deriving DecidableEq, Repr

/-- A cause in the chain of a failure: an error of a type of its own, or a text put around one. -/
inductive Cause where
  | context (message : String)
  | settings (error : SettingsError)
  | schema (error : SchemaError)
  | module (error : ModuleError)
  | project (error : ProjectError)
  | file (error : FileError)
  | outOfDate (names : List String)
deriving DecidableEq, Repr

namespace Cause

/-- `2` for settings and modules, `3` for rendering, `4` for schemas, `5` for stale artifacts. -/
def exitCode? : Cause → Option Nat
  | .context _ => none
  | .settings _ => some 2
  | .schema _ => some 4
  | .module (.unreadable _) => some 1
  | .module _ => some 2
  | .project _ => some 3
  | .file _ => some 1
  | .outOfDate _ => some 5

/-- The messages of a cause and of the causes below it. -/
def messages : Cause → List String
  | .context message => [message]
  | .settings error => error.chain
  | .schema error => error.chain
  | .module error => error.chain
  | .project error => error.chain
  | .file error => error.chain
  | .outOfDate names => ["Artifacts out of date: " ++ ", ".intercalate names]

end Cause

namespace Failure

/-- The chain of a failure, from the phase down to the first cause. -/
def causes : Failure → List Cause
  | .settings path error => [.context ("Failed to load project file " ++ path), .settings error]
  | .schemas path error => [.context ("Failed to load schemas from " ++ path), .schema error]
  | .modules path error => [.context ("Failed to load modules from " ++ path), .module error]
  | .compile error => [.context "Failed to compile modules", .project error]
  | .writing directory error =>
      [.context ("Failed to write artifacts to " ++ directory), .file error]
  | .comparing directory error =>
      [.context ("Failed to read artifacts in " ++ directory), .file error]
  | .outOfDate names => [.outOfDate names]
  | .unknownProvider provider path =>
      [.context ("Provider " ++ provider ++ " not found in " ++ path)]

/-- The first error in the chain that has a code decides; without one it is `1`. -/
def exitCode (failure : Failure) : Nat := (failure.causes.findSome? Cause.exitCode?).getD 1

def chain (failure : Failure) : List String := failure.causes.flatMap Cause.messages

end Failure

/-- What a command leaves behind: printed lines, a failure, and the file tree. -/
structure Effect where
  lines : List String := []
  failure : Option Failure := none
  tree : FileTree

structure Outcome where
  exit : Nat
  stdout : String
  stderr : String
  tree : FileTree

/-! ### Settings -/

abbrev Given := List (Parameter × String)

def isGiven (given : Given) (parameter : Parameter) : Bool := (given.lookup parameter).isSome

/-- The project file that is read when none is named and it is there. -/
def defaultSettingsFile : String := "tfgen.yaml"

def settingsFile? (tree : FileTree) (given : Given) : Option String :=
  match given.lookup Parameter.config with
  | some path => some path
  | none => if pathExists tree defaultSettingsFile then some defaultSettingsFile else none

/-- Lets the arguments take precedence over the settings. -/
def override (given : Given) (settings : Settings) : Settings where
  schemas := (given.lookup Parameter.schemas).getD settings.schemas
  modules := (given.lookup Parameter.modules).getD settings.modules
  output := (given.lookup Parameter.output).getD settings.output
  collisionPolicy :=
    if isGiven given .rejectCollisions then .reject else settings.collisionPolicy
  attributeObjects :=
    if isGiven given .bracedObjects then .braced else settings.attributeObjects
  parallel := if isGiven given .sequential then false else settings.parallel

def settingsOf (tree : FileTree) (given : Given) : Except Failure Settings :=
  match settingsFile? tree given with
  | none => .ok (override given {})
  | some path =>
      match loadSettings tree path with
      | .ok settings => .ok (override given settings)
      | .error error => .error (.settings path error)

/-! ### Generating and checking -/

def registryOf (tree : FileTree) (settings : Settings) : Except Failure Registry :=
  match loadRegistry tree settings.schemas with
  | .ok registry => .ok registry
  | .error error => .error (.schemas settings.schemas error)

def modulesOf (tree : FileTree) (settings : Settings) : Except Failure (List Module) :=
  match loadModules tree settings.modules with
  | .ok modules => .ok modules
  | .error error => .error (.modules settings.modules error)

def compileAll (settings : Settings) (registry : Registry) (modules : List Module) :
    Except Failure ProjectOutput :=
  match buildProject settings.collisionPolicy (settings.schedule modules)
      (settings.compiler registry) modules with
  | .ok output => .ok output
  | .error error => .error (.compile error)

def projectOf (tree : FileTree) (settings : Settings) : Except Failure ProjectOutput := do
  let registry ← registryOf tree settings
  let modules ← modulesOf tree settings
  compileAll settings registry modules

def settingsAndProject (tree : FileTree) (given : Given) :
    Except Failure (Settings × ProjectOutput) := do
  let settings ← settingsOf tree given
  let output ← projectOf tree settings
  pure (settings, output)

def padStatus (status : ArtifactStatus) : String :=
  status.text ++ String.ofList (List.replicate (10 - status.text.length) ' ')

def writtenLines (report : Report) : List String :=
  ("📦 Artifacts in " ++ report.directory) ::
    report.entries.map (fun entry => "   " ++ padStatus entry.2 ++ " " ++ entry.1) ++
    ["", if report.isUpToDate then "✅ Everything up to date"
      else "✅ " ++ toString report.changed.length ++ " artifact(s) written"]

def generate (tree : FileTree) (given : Given) : Effect :=
  match settingsAndProject tree given with
  | .error failure => { failure := some failure, tree := tree }
  | .ok (settings, output) =>
      match writeArtifacts tree settings.output output with
      | (next, .ok report) => { lines := writtenLines report, tree := next }
      | (next, .error error) => { failure := some (.writing settings.output error), tree := next }

def differenceText : ArtifactStatus → String
  | .created => "missing"
  | _ => "differs"

def staleLines (report : Report) : List String :=
  "❌ Artifacts are out of date:" ::
    (report.entries.filter fun entry => entry.2.isChanged).map
      (fun entry => "   - " ++ entry.1 ++ " (" ++ differenceText entry.2 ++ ")") ++
    ["", "Run \x60tfgen generate\x60 to update them."]

def check (tree : FileTree) (given : Given) : Effect :=
  match settingsAndProject tree given with
  | .error failure => { failure := some failure, tree := tree }
  | .ok (settings, output) =>
      match checkArtifacts tree settings.output output with
      | .error error => { failure := some (.comparing settings.output error), tree := tree }
      | .ok report =>
          if report.isUpToDate then { lines := ["✅ Artifacts are up to date"], tree := tree }
          else {
            lines := staleLines report
            failure := some (.outOfDate report.changed)
            tree := tree }

/-! ### Listing schemas -/

def listingValue (registry : Registry) (providers : List String) : Value :=
  let names (types : List String) : Value := .list (types.map .string)
  let listed (provider : String) : Value := .object [
    ("resources", names (registry.typesOf .resource provider)),
    ("data_sources", names (registry.typesOf .dataSource provider))]
  .object (providers.foldl (fun members provider =>
    putEntry provider (listed provider) members) [])

def kindLines (registry : Registry) (provider : String) (kind : EntityKind) : List String :=
  let types := registry.typesOf kind provider
  if types.isEmpty then []
  else ("   " ++ kind.label ++ " (" ++ toString types.length ++ "):") ::
    types.map fun type => "      - " ++ type

def providerLines (registry : Registry) (provider : String) : List String :=
  ("🔌 " ++ provider) ::
    (kindLines registry provider .resource ++ kindLines registry provider .dataSource)

/-- The lines of a listing, of one provider when one is wanted. -/
def schemaLines (registry : Registry) (path : String) (wanted : Option String) (asJson : Bool) :
    Except Failure (List String) :=
  if registry.isEmpty then .ok ["⚠️  No schemas found in " ++ path]
  else
    let providers := match wanted with
      | some wanted => registry.providers.filter fun provider => provider = wanted
      | none => registry.providers
    match wanted, providers with
    | some wanted, [] => .error (.unknownProvider wanted path)
    | _, _ =>
        .ok (if asJson then [(listingValue registry providers).pretty]
          else providers.flatMap (providerLines registry))

def schema (tree : FileTree) (given : Given) : Effect :=
  let lines := do
    let settings ← settingsOf tree given
    let registry ← registryOf tree settings
    schemaLines registry settings.schemas (given.lookup Parameter.provider) (isGiven given .json)
  match lines with
  | .ok lines => { lines := lines, tree := tree }
  | .error failure => { failure := some failure, tree := tree }

/-! ### Running -/

def runCommand (tree : FileTree) (command : Subcommand) (given : Given) : Effect :=
  match command with
  | .generate => generate tree given
  | .check => check tree given
  | .schema => schema tree given

def joinLines (lines : List String) : String := String.join (lines.map fun line => line ++ "\n")

def Effect.outcome (effect : Effect) : Outcome where
  exit := match effect.failure with
    | some failure => failure.exitCode
    | none => 0
  stdout := joinLines effect.lines
  stderr := match effect.failure with
    | some failure => "❌ Error: " ++ ": ".intercalate failure.chain ++ "\n"
    | none => ""
  tree := effect.tree

def versionText : Option Subcommand → String
  | none => "tfgen 0.1.0"
  | some command => "tfgen-" ++ command.text ++ " 0.1.0"

def usage : String :=
  "Usage: tfgen [-v] [-q] [--log-json] <generate|check|schema> [options]\n"

def run (tree : FileTree) (environment : List (String × String)) (arguments : List String) :
    Outcome :=
  match readArguments environment arguments with
  | none => ⟨2, "", usage, tree⟩
  | some (.help _) => ⟨0, usage, "", tree⟩
  | some (.version command) => ⟨0, versionText command ++ "\n", "", tree⟩
  | some (.run command given) => (runCommand tree command given).outcome

end Stanza.Command
