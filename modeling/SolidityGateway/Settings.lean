import SolidityGateway.Validation.Scalar
import SolidityGateway.Service.Basic

/-!
The settings of a gateway. They come from arguments and from variables of the environment. An argument
belongs to the field whose name it has, a variable to the one whose name it has after `variableStart`,
both in any case of letters. An argument comes before a variable; of several arguments for a field
the first counts, of several variables the last. Every field is read on its own, so the errors name
each field that is at fault, in the order of the fields, and after them the arguments that are no
field.
-/

namespace SolidityGateway

/-- The settings of a gateway. -/
structure Settings where
  host : Text
  portNumber : Int
  /-- How sources are compiled. -/
  service : Service
  /-- The most compilations at a time. -/
  limit : Option Int

namespace Settings

/-- The names of the fields, in order. -/
def names : List Text :=
  ["host", "port", "source_name", "solc_binary", "solc_version", "warnings_as_errors",
    "max_concurrent_compiles"]

/-- What the names of variables begin with, in small letters. -/
def variableStart : Text := "solc_server_"

/-- The value of the last variable for a field. -/
def variableFor (environment : List (Text × Text)) (name : Text) : Option Text :=
  (environment.reverse.find? fun v => v.1.toAsciiLower = variableStart ++ name).map (·.2)

/-- The value of the first argument for a field. -/
def argumentFor (arguments : List (Text × Json)) (name : Text) : Option Json :=
  (arguments.find? fun a => a.1.toAsciiLower = name).map (·.2)

def given (environment : List (Text × Text)) (arguments : List (Text × Json)) (name : Text) :
    Option Json :=
  match argumentFor arguments name with
  | some value => some value
  | none => (variableFor environment name).map Json.text

/-- The value of a field: what it is given if the field accepts that, or the default. -/
def field {α : Type} (given : Text → Option Json) (name : Text) (default : α)
    (read : Json → Except Complaint α) : Except FieldError α :=
  match given name with
  | none => .ok default
  | some value => (read value).mapError fun complaint => ⟨[name], complaint⟩

/-- The error of a field, if it is at fault. -/
def errorOf {α : Type} : Except FieldError α → List FieldError
  | .error e => [e]
  | .ok _ => []

def unknownArguments (arguments : List (Text × Json)) : List FieldError :=
  (arguments.filter fun a => a.1.toAsciiLower ∉ names).map fun a => ⟨[a.1], .unknownField⟩

/-- The field that says whether warnings refuse a source. -/
def policy (value : Json) : Except Complaint Policy :=
  (Scalar.truth value).map fun strict => if strict then .strict else .relaxed

/-- The settings of an environment and arguments with names that are all characters. -/
def loadNamed (length : IntegerText.Length) (environment : List (Text × Text))
    (arguments : List (Text × Json)) : Except (List FieldError) Settings :=
  let given := given environment arguments
  let host := field given "host" ("0.0.0.0" : Text) Scalar.text
  let portNumber := field given "port" 4000 (Scalar.integer length)
  let sourceName := field given "source_name" ("contract.sol" : Text) Scalar.text
  let binary := field given "solc_binary" none (Scalar.optional Scalar.path)
  let release := field given "solc_version" none (Scalar.optional Scalar.text)
  let policy := field given "warnings_as_errors" .strict policy
  let limit := field given "max_concurrent_compiles" none (Scalar.optional (Scalar.integer length))
  match host, portNumber, sourceName, binary, release, policy, limit, unknownArguments arguments with
  | .ok host, .ok portNumber, .ok sourceName, .ok binary, .ok release, .ok policy, .ok limit, [] =>
    .ok ⟨host, portNumber, ⟨binary, release, sourceName, policy⟩, limit⟩
  | _, _, _, _, _, _, _, unknown =>
    .error (errorOf host ++ errorOf portNumber ++ errorOf sourceName ++ errorOf binary ++
      errorOf release ++ errorOf policy ++ errorOf limit ++ unknown)

/-- The settings of an environment and arguments, by what counts for the length of a number. A name with
a surrogate in it is the only error that is told of, and has no place. -/
def loadBy (length : IntegerText.Length) (environment : List (Text × Text))
    (arguments : List (Text × Json)) : Except (List FieldError) Settings :=
  if arguments.any fun a => a.1.hasSurrogate then .error [⟨[], .notCharacters⟩]
  else loadNamed length environment arguments

/-- The settings of an environment and arguments where only digits count for the length of a number. -/
def load (environment : List (Text × Text)) (arguments : List (Text × Json)) :
    Except (List FieldError) Settings :=
  loadBy .digits environment arguments

end Settings

end SolidityGateway
