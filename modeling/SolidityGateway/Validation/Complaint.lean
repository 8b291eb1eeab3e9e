import SolidityGateway.Text.CodePoint

/-!
What is wrong with a value that a field is given. A complaint is a cause with a short code and a
wording; a `FieldError` adds where it stands.
-/

namespace SolidityGateway

/-- Why a field does not accept a value. -/
inductive Complaint
  | missing
  | unknownField
  | notText
  | notCharacters
  | notPath
  | notInteger
  | notIntegerText
  | fractional
  | notFinite
  | integerTooLarge
  | notTruth
  | notTruthText
  | notObject
  | notRecord (label : String)
deriving DecidableEq

namespace Complaint

def code : Complaint → String
  | missing => "missing"
  | unknownField => "extra_forbidden"
  | notText => "string_type"
  | notCharacters => "string_unicode"
  | notPath => "path_type"
  | notInteger => "int_type"
  | notIntegerText => "int_parsing"
  | fractional => "int_from_float"
  | notFinite => "finite_number"
  | integerTooLarge => "int_parsing_size"
  | notTruth => "bool_type"
  | notTruthText => "bool_parsing"
  | notObject => "dict_type"
  | notRecord _ => "model_type"

def message : Complaint → String
  | missing => "Field required"
  | unknownField => "Extra inputs are not permitted"
  | notText => "Input should be a valid string"
  | notCharacters => "Input should be a valid string, unable to parse raw data as a unicode string"
  | notPath => "Input is not a valid path for <class 'pathlib.Path'>"
  | notInteger => "Input should be a valid integer"
  | notIntegerText => "Input should be a valid integer, unable to parse string as an integer"
  | fractional => "Input should be a valid integer, got a number with a fractional part"
  | notFinite => "Input should be a finite number"
  | integerTooLarge => "Unable to parse input string as an integer, exceeded maximum size"
  | notTruth => "Input should be a valid boolean"
  | notTruthText => "Input should be a valid boolean, unable to interpret input"
  | notObject => "Input should be a valid dictionary"
  | notRecord label => "Input should be a valid dictionary or instance of " ++ label

end Complaint

/-- A complaint about the value at a place. -/
structure FieldError where
  place : List Text
  complaint : Complaint
deriving DecidableEq

end SolidityGateway
