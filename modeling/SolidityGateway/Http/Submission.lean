import SolidityGateway.Http.Request
import SolidityGateway.Json.Parser

/-!
The source that a request submits. A body that is empty submits nothing, as do null and an object
without a source. A body that is JSON in any encoding of Unicode has to be an object, and its source
a text or null.
-/

namespace SolidityGateway

/-- What is wrong with the body of a request. -/
inductive BodyFault
  | notRecord
  | sourceNotText
  | malformed
  | unreadable
deriving DecidableEq

namespace Submission

/-- The source in a value. -/
def ofValue : Json → Except BodyFault (Option Text)
  | .null => .ok none
  | .object members =>
    match Json.lookup "source" members with
    | none | some .null => .ok none
    | some (.text t) => .ok (some t)
    | some _ => .error .sourceNotText
  | _ => .error .notRecord

def ofText (t : Text) : Except BodyFault (Option Text) :=
  match Json.parse t with
  | .ok value => ofValue value
  | .error (.malformed ..) => .error .malformed
  | .error _ => .error .unreadable

def ofBytes (bytes : Bytes) : Except BodyFault (Option Text) :=
  match Encoding.decodeAny bytes with
  | some t => ofText t
  | none => .error .unreadable

/-- The source that a request submits. -/
def ofRequest (request : Request) : Except BodyFault (Option Text) :=
  if request.body = [] then .ok none
  else if request.holdsJson then ofBytes request.body
  else .error .notRecord

end Submission

end SolidityGateway
