/-!
# Arguments

The arguments of the program are read from left to right. An option is given at most once, a flag
takes no value, and nothing but options is expected; the first fault ends the reading, as does a
request for help or for the version.
-/

namespace Switchboard.CommandLine

/-- What the arguments ask for. -/
structure Options where
  config : Option String
  logLevel : Option String
  jsonLogs : Bool
  list : Bool
  check : Bool
  deriving DecidableEq, Repr

/-- Nothing is asked for. -/
def Options.none : Options := ⟨.none, .none, false, false, false⟩

/-- Why the reading of arguments ends early. -/
inductive Interruption where
  | misuse
  | version
  | help
  deriving DecidableEq, Repr

/-- An option that takes a value. -/
inductive Setting where
  | config
  | logLevel
  deriving DecidableEq, Repr

namespace Options

/-- Takes the value of an option. A path is not empty. -/
def set (o : Options) (s : Setting) (value : String) : Except Interruption Options :=
  match s with
  | .config =>
    if o.config.isSome || value.isEmpty then .error .misuse
    else .ok { o with config := some value }
  | .logLevel =>
    if o.logLevel.isSome then .error .misuse else .ok { o with logLevel := some value }

/-- Takes a flag. -/
def raise (o : Options) (name : String) : Except Interruption Options :=
  if name = "json-logs" ∧ !o.jsonLogs then .ok { o with jsonLogs := true }
  else if name = "list" ∧ !o.list then .ok { o with list := true }
  else if name = "check" ∧ !o.check then .ok { o with check := true }
  else if name = "version" then .error .version
  else if name = "help" then .error .help
  else .error .misuse

/-- The option of a long name. -/
def setting? (name : String) : Option Setting :=
  if name = "config" then some .config
  else if name = "log-level" then some .logLevel
  else .none

/-- The option of a letter. -/
def letter? (c : Char) : Option Setting :=
  if c = 'c' then some .config
  else if c = 'l' then some .logLevel
  else .none

/-- Whether an argument can be the value of the option before it. -/
def isValue (argument : String) : Bool := !argument.startsWith "-" || argument == "-"

/-- What an argument begins with. Two dashes alone are an escape, after which no option follows. -/
inductive Form where
  | long (name : String) (value : Option String)
  | short (letters : List Char)
  | escape
  | other

/-- The form of an argument. -/
def formOf (argument : String) : Form :=
  match argument.toList with
  | ['-', '-'] => .escape
  | '-' :: '-' :: rest =>
    let name := String.ofList (rest.takeWhile (· ≠ '='))
    match rest.dropWhile (· ≠ '=') with
    | _ :: value => .long name (some (String.ofList value))
    | [] => .long name .none
  | ['-'] => .other
  | '-' :: letters => .short letters
  | _ => .other

/-- What letters after one dash ask for: an option with the rest as its value, if there is one. -/
def lettersOf : List Char → Except Interruption (Option (Setting × Option String))
  | [] => .ok .none
  | c :: rest =>
    match letter? c with
    | some s =>
      match rest with
      | [] => .ok (some (s, .none))
      | '=' :: value => .ok (some (s, some (String.ofList value)))
      | value => .ok (some (s, some (String.ofList value)))
    | .none => if c = 'V' then .error .version else if c = 'h' then .error .help else .error .misuse

/-- Reads arguments; `pending` is the option whose value comes next. -/
def readFrom (o : Options) (pending : Option Setting) :
    List String → Except Interruption Options
  | [] => if pending.isSome then .error .misuse else .ok o
  | argument :: rest =>
    match pending with
    | some s =>
      if isValue argument then do readFrom (← o.set s argument) .none rest
      else .error .misuse
    | .none =>
      match formOf argument with
      | .escape => if rest.isEmpty then .ok o else .error .misuse
      | .other => .error .misuse
      | .long name value =>
        match setting? name, value with
        | some s, some value => do readFrom (← o.set s value) .none rest
        | some s, .none => readFrom o (some s) rest
        | .none, some _ => .error .misuse
        | .none, .none => do readFrom (← o.raise name) .none rest
      | .short letters => do
        match ← lettersOf letters with
        | some (s, some value) => readFrom (← o.set s value) .none rest
        | some (s, .none) => readFrom o (some s) rest
        | .none => .error .misuse

/-- Reads all arguments. The environment names the configuration where they do not. -/
def read (environment : Option String) (arguments : List String) : Except Interruption Options := do
  let o ← readFrom .none .none arguments
  match o.config, environment with
  | .none, some path => o.set .config path
  | _, _ => return o

end Options

end Switchboard.CommandLine
