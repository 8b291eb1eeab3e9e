import SolidityGateway.Text.Blank
import SolidityGateway.Text.Encoding

/-!
Requests, and whether the body of one is JSON. The first `content-type` header decides, whatever the
case of its name: its media type is what stands before the first `;`, without white space around it,
in either case, and it is JSON if it is `application/json` or an `application` type that ends in
`+json`.
-/

namespace SolidityGateway

/-- A request. The path is decoded. -/
structure Request where
  method : Text
  path : Text
  query : Text
  headers : List (Text × Text)
  body : Bytes

namespace Request

/-- The first header with a name. -/
def header? (request : Request) (name : Text) : Option Text :=
  (request.headers.find? fun h => h.1.toAsciiLower = name).map (·.2)

def isJsonType (contentType : Text) : Bool :=
  let mediaType : Text := contentType.takeWhile (· ≠ CodePoint.ofChar ';')
  match Text.splitOn "/" (mediaType.trim CodePoint.isBlank).toAsciiLower with
  | [kind, subtype] => kind = "application" && (subtype = "json" || subtype.endsWith "+json")
  | _ => false

/-- Whether the body is to be read as JSON. -/
def holdsJson (request : Request) : Bool :=
  match request.header? "content-type" with
  | some contentType => isJsonType contentType
  | none => false

end Request

end SolidityGateway
