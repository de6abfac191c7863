import Switchboard.CommandLine.Arguments
import Switchboard.CommandLine.LogFilter
import Switchboard.Config.Load
import Switchboard.Router.Assembly

/-!
# The program

The program lists the types it knows, checks a configuration, or builds a router of it and runs it
until it is interrupted.
-/

namespace Switchboard.CommandLine

/-- How the program ends, and what it has written. -/
structure Report where
  exit : Nat
  output : String
  errors : String
  deriving DecidableEq, Repr

/-- What the program comes to. -/
inductive Plan where
  | finish (report : Report)
  | route (line : String) (assembly : Assembly Module) (filter : LogFilter)

/-- The program ends well. -/
def Report.success (output : String) : Report := ⟨0, output, ""⟩

/-- The reasons of an error, each with a number if there are several. -/
def causes : List String → String
  | [] => ""
  | [cause] => "\n\nCaused by:\n    " ++ cause
  | several => "\n\nCaused by:" ++
      String.join (several.zipIdx.map fun (cause, k) => "\n    " ++ toString k ++ ": " ++ cause)

/-- The program ends with an error, which has been brought about by others. -/
def Report.failure (output message : String) (chain : List String) : Report :=
  ⟨1, output, "Error: " ++ message ++ causes chain ++ "\n"⟩

/-- What the program writes when its arguments are not understood. -/
def misuse : Report :=
  ⟨2, "", "error: invalid arguments\n\nUsage: cuebridge [OPTIONS]\n\n" ++
    "For more information, try '--help'.\n"⟩

/-- The version of the program. -/
def version : String := "cuebridge 0.3.0\n"

/-- What the program tells about its use. -/
def help (environment : Option String) : String :=
  "cuebridge - protocol-bridging message router\n\nUsage: cuebridge [OPTIONS]\n\nOptions:\n" ++
  "  -c, --config <CONFIG>        Configuration file (.json or .toml) [env: CUEBRIDGE_CONFIG=" ++
  environment.getD "" ++ "]\n" ++
  "  -l, --log-level <LOG_LEVEL>  Log level (trace, debug, info, warn, error) [default: info]\n" ++
  "      --json-logs              Output logs as JSON\n" ++
  "      --list                   List the available module and processor types and exit\n" ++
  "      --check                  Build the router, report rejected modules and routes, " ++
  "and exit\n" ++
  "  -h, --help                   Print help\n" ++
  "  -V, --version                Print version\n"

/-- The types that registries know. -/
def typeList (registries : Registries) : String :=
  let lines (types : List String) := String.join (types.map fun type => "  " ++ type ++ "\n")
  "Modules:\n" ++ lines registries.modules.types ++
    "Processors:\n" ++ lines registries.processors.types

/-- What a check of a configuration comes to. -/
def checked (a : Assembly Module) : Report :=
  let modules := a.moduleErrors.map fun e => "module " ++ e.message ++ "\n"
  let routes := a.routeErrors.map fun e => "route " ++ e.message ++ "\n"
  let counts := "cuebridge " ++ toString a.router.moduleCount ++ " modules, " ++
    toString a.router.routeCount ++ " routes, " ++ toString a.rejected ++ " rejected\n"
  let output := String.join (modules ++ routes) ++ counts
  if a.rejected = 0 then .success output
  else .failure output (toString a.rejected ++ " configuration entries rejected") []

/-- The line that the program writes when it begins to route. -/
def openingLine (a : Assembly Module) : String :=
  "cuebridge Routing " ++ toString a.router.moduleCount ++ " modules over " ++
    toString a.router.routeCount ++ " routes (Ctrl+C to stop)\n"

/-- The errors that a configuration error is made of, from the outside in. -/
def chainOf (e : ConfigError) : List String := e.message :: e.cause?.toList

/-- What the program comes to when it is given options. `read` gives what a file holds. -/
def plan {m : Type → Type} [Monad m] (read : String → m (Except FileError Bytes)) (o : Options) :
    m Plan := do
  match LogFilter.ofText (o.logLevel.getD "info") with
  | .error e => return .finish (.failure "" "Failed to parse log level" e.chain)
  | .ok filter =>
    if o.list then return .finish (.success (typeList .builtins))
    match o.config with
    | none =>
      let message := "No configuration file given (use --config or CUEBRIDGE_CONFIG)"
      return .finish (.failure "" message [])
    | some path =>
      match Config.ofFile path (← read path) with
      | .error e =>
        let message := "Failed to load configuration from " ++ path
        return .finish (.failure "" message (chainOf e))
      | .ok config =>
        let a := Assembly.ofConfig .builtins config
        if o.check then return .finish (checked a)
        return .route (openingLine a) a filter

/-- What the program comes to. -/
def run {m : Type → Type} [Monad m] (read : String → m (Except FileError Bytes))
    (environment : Option String) (arguments : List String) : m Plan := do
  match Options.read environment arguments with
  | .error .misuse => return .finish misuse
  | .error .version => return .finish (.success version)
  | .error .help => return .finish (.success (help environment))
  | .ok o => plan read o

end Switchboard.CommandLine
