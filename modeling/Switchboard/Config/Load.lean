import Switchboard.Config.Document
import Switchboard.Config.Reader

/-!
# Configurations of files

A configuration is read from a file whose name tells its format. The file is read before its name
is judged.
-/

namespace Switchboard

/-- Why a file could not be read. -/
inductive FileError where
  | notFound
  | notDirectory
  | isDirectory
  | notUtf8
  deriving DecidableEq, Repr

/-- How the error reads. -/
def FileError.message : FileError → String
  | .notFound => "No such file or directory (os error 2)"
  | .notDirectory => "Not a directory (os error 20)"
  | .isDirectory => "Is a directory (os error 21)"
  | .notUtf8 => "stream did not contain valid UTF-8"

/-- Why there is no configuration. -/
inductive ConfigError where
  | io (error : FileError)
  | json (failure : Json.Failure)
  | toml
  | unsupported (path : String)

/-- How the error reads. -/
def ConfigError.message : ConfigError → String
  | .io error => "io error: " ++ error.message
  | .json failure => "json error: " ++ failure.message
  | .toml => "toml error"
  | .unsupported path => "unsupported config format: " ++ path

/-- The error inside, as far as it has a text of its own. -/
def ConfigError.cause? : ConfigError → Option String
  | .io error => some error.message
  | .json failure => some failure.message
  | _ => none

/-! ## Files -/

/-- A directory: its files by their paths, which are lists of names. -/
structure Folder where
  files : List (List String × Bytes)

namespace Folder

/-- The names of a path text. -/
def namesOf (path : String) : List String := path.splitOn "/"

/-- The folder of files given by path texts. -/
def ofFiles (files : List (String × Bytes)) : Folder := ⟨files.map fun f => (namesOf f.1, f.2)⟩

/-- What the file at a list of names holds. -/
def file? (folder : Folder) (names : List String) : Option Bytes :=
  (folder.files.find? fun f => f.1 == names).map Prod.snd

/-- Whether a list of names leads to a directory. -/
def isDirectory (folder : Folder) (names : List String) : Bool :=
  names.isEmpty || folder.files.any fun f => names.length < f.1.length && names.isPrefixOf f.1

/-- Follows names from a place in the folder; `place` holds its names, last first. -/
def walk (folder : Folder) : (place : List String) → List String → Except FileError (List String)
  | place, [] => .ok place
  | place, name :: rest =>
    if folder.isDirectory place.reverse then
      if name == "" || name == "." then walk folder place rest
      else if name == ".." then
        match place with
        | [] => .error .notFound
        | _ :: outer => walk folder outer rest
      else walk folder (name :: place) rest
    else if (folder.file? place.reverse).isSome then .error .notDirectory
    else .error .notFound

/-- What the file at a path holds. -/
def read (folder : Folder) (path : String) : Except FileError Bytes := do
  if path.isEmpty || path.startsWith "/" then throw .notFound
  let place ← folder.walk [] (namesOf path)
  let names := place.reverse
  if folder.isDirectory names then throw .isDirectory
  match folder.file? names with
  | some content => return content
  | none => throw .notFound

end Folder

/-! ## Formats -/

/-- The last name of a path: empty names and single dots at the end do not count. -/
def lastName? (path : String) : Option String :=
  match (Folder.namesOf path).reverse.dropWhile (fun name => name == "" || name == ".") with
  | [] => none
  | name :: _ => if name == ".." then none else some name

/-- The part of the last name after its last dot, which is not its first character. -/
def extension? (path : String) : Option String := do
  let name ← lastName? path
  match (name.splitOn ".").reverse with
  | last :: before :: more => if more.isEmpty && before.isEmpty then none else some last
  | _ => none

/-- A format of configurations. -/
inductive ConfigFormat where
  | json
  | toml
  deriving DecidableEq, Repr

namespace ConfigFormat

/-- The format of a path, in any case. -/
def ofPath? (path : String) : Option ConfigFormat := do
  let extension := String.ofList ((← extension? path).toList.map Char.toLower)
  if extension == "json" then some .json
  else if extension == "toml" then some .toml
  else none

/-- The configuration of a text of the format. -/
def read : ConfigFormat → String → Except ConfigError Config
  | .json, document => (Config.ofJsonText document).mapError .json
  | .toml, document =>
    match Config.ofTomlText? document with
    | some config => .ok config
    | none => .error .toml

end ConfigFormat

/-- The configuration of what the file at a path holds. -/
def Config.ofFile (path : String) (content : Except FileError Bytes) :
    Except ConfigError Config := do
  let content ← content.mapError .io
  let document ← (Utf8.decode content).mapError fun _ => .io .notUtf8
  match ConfigFormat.ofPath? path with
  | some format => format.read document
  | none => throw (.unsupported path)

/-- The configuration of the file at a path. -/
def Folder.readConfig (folder : Folder) (path : String) : Except ConfigError Config :=
  Config.ofFile path (folder.read path)

end Switchboard
