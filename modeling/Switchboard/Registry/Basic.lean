import Switchboard.Table
import Switchboard.Text.Quoted

/-!
# Registries

A registry knows for each type the constructor that builds it. A registration is taken once: it
names a type that is not known yet and brings a constructor, or it is refused and the registry
stays as it was.
-/

namespace Switchboard

/-- A type with the constructor that is to be known for it. -/
structure Registration (C : Type) where
  type : String
  constructor : Option C

namespace Registration

variable {C : Type}

/-- A registration that brings its constructor. -/
def of (type : String) (constructor : C) : Registration C := ⟨type, some constructor⟩

/-- The registration as messages show it. -/
def describe (r : Registration C) : String :=
  let known := if r.constructor.isSome then "true" else "false"
  "Registration \x7b type_name: " ++ Text.quoted r.type ++ ", has_constructor: " ++ known ++ " \x7d"

end Registration

/-- Why a registration is refused. -/
inductive RegistrationFault where
  | emptyType
  | noConstructor (type : String)
  | duplicate (type : String)
  deriving DecidableEq, Repr

/-- How the refusal reads in a registry of a kind. -/
def RegistrationFault.message (kind : String) : RegistrationFault → String
  | .emptyType => kind ++ " registration has an empty type"
  | .noConstructor type => kind ++ " registration " ++ type ++ " has no constructor"
  | .duplicate type => kind ++ " type " ++ type ++ " is already registered"

/-- The constructors of one kind by the types that they build. `kind` is what messages call the
types. -/
structure Registry (C : Type) where
  kind : String
  entries : Table C

namespace Registry

variable {C : Type}

/-- A registry that knows no type. -/
def empty (kind : String) : Registry C := ⟨kind, []⟩

/-- The constructor of a type. -/
def lookup (r : Registry C) (type : String) : Option C := r.entries.find? type

/-- Whether a type is known. -/
def contains (r : Registry C) (type : String) : Bool := (r.lookup type).isSome

/-- The known types, sorted. -/
def types (r : Registry C) : List String := r.entries.keys

/-- The number of known types. -/
def size (r : Registry C) : Nat := r.entries.length

/-- Whether no type is known. -/
def isEmpty (r : Registry C) : Bool := r.entries.isEmpty

/-- Takes a registration, or says why it is refused. -/
def register (r : Registry C) (given : Registration C) : Except RegistrationFault (Registry C) :=
  if given.type = "" then .error .emptyType
  else
    match given.constructor with
    | none => .error (.noConstructor given.type)
    | some constructor =>
      if r.contains given.type then .error (.duplicate given.type)
      else .ok { r with entries := r.entries.insert given.type constructor }

/-- Takes registrations in order up to the first that is refused. What was taken before it stays. -/
def registerAll (r : Registry C) : List (Registration C) → Option RegistrationFault × Registry C
  | [] => (none, r)
  | given :: rest =>
    match r.register given with
    | .ok r => r.registerAll rest
    | .error fault => (some fault, r)

/-- The registry as messages show it. -/
def describe (r : Registry C) : String :=
  "Registry \x7b kind: " ++ Text.quoted r.kind ++ ", types: " ++ Text.quotedList r.types ++ " \x7d"

end Registry

end Switchboard
