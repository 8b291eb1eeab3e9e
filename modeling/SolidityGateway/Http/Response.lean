import SolidityGateway.Json.Style
import SolidityGateway.Http.Submission
import SolidityGateway.Compiler.Failure

/-!
Responses. A refusal is an object with the member `error`; a result is the object of the artifacts.
Not every value can be sent: a refusal may hold no number that is not finite and no surrogate, the
artifacts have to be an object of objects, and the values in these may hold no surrogate and are
limited in height. Where a value cannot be sent the answer is a plain server error.
`Response.ofFieldErrors` says instead why there is none, as a `ReportFault`.
-/

namespace SolidityGateway

/-- A response. -/
structure Response where
  status : Nat
  headers : List (Text × Text)
  body : Text

namespace Response

def ofJson (status : Nat) (style : Json.Style) (value : Json) : Response :=
  ⟨status, [("content-type", "application/json")], value.write style⟩

/-- The response to what the gateway did not foresee. -/
def serverError : Response :=
  ⟨500, [("content-type", "text/plain; charset=utf-8")], "Internal Server Error"⟩

/-- Whether a value can be sent in a refusal. -/
def isStrict (value : Json) : Bool :=
  value.all
    (fun
      | .float x => x.isFinite
      | .text t => !t.hasSurrogate
      | _ => true)
    (fun name => !name.hasSurrogate)

def refusalText (message : Json) : Text := Json.write .error (.object [("error", message)])

/-- Why field errors cannot be reported. -/
inductive ReportFault
  /-- The first of them is of a kind that has no members. -/
  | noMembers (kind : String)
  /-- The message holds a number that is not finite. -/
  | notFinite
  /-- The text of the refusal has a run of surrogates, the first of them `c` at a place from 0. -/
  | surrogates (c : CodePoint) (place count : Nat)
deriving DecidableEq

namespace ReportFault

/-- The first run of surrogates in a text. -/
def surrogateRun? (t : Text) : Option ReportFault :=
  let before := t.takeWhile (!·.isSurrogate)
  match t.dropWhile (!·.isSurrogate) with
  | [] => none
  | c :: rest => some (surrogates c before.length ((rest.takeWhile CodePoint.isSurrogate).length + 1))

/-- Why a message cannot be sent in a refusal. -/
def of? (message : Json) : Option ReportFault :=
  if message.all (fun | .float x => x.isFinite | _ => true) (fun _ => true) then
    surrogateRun? (refusalText message)
  else some notFinite

def message : ReportFault → Text
  | noMembers kind => (Failure.noMembers kind).text
  | notFinite => "Out of range float values are not JSON compliant"
  | surrogates c place 1 =>
    ("'utf-8' codec can't encode character '\\u" : Text) ++ Text.hex 4 c.val ++ "' in position " ++
      Text.ofNat place ++ ": surrogates not allowed"
  | surrogates _ place count =>
    ("'utf-8' codec can't encode characters in position " : Text) ++ Text.ofNat place ++ "-" ++
      Text.ofNat (place + count - 1) ++ ": surrogates not allowed"

end ReportFault

/-- A refusal. A message is sent however deep it is nested; that writing one near `Json.depthLimit` may
run out of stack is left out. -/
def refusal (status : Nat) (message : Json) : Response :=
  if isStrict message then ofJson status .error (.object [("error", message)]) else serverError

/-- How deep a value inside an artifact may be nested. -/
def heightLimit : Nat := 255

/-- Whether a value inside an artifact can be sent. -/
def isSendable (value : Json) : Bool :=
  value.height ≤ heightLimit &&
    value.all
      (fun
        | .text t => !t.hasSurrogate
        | _ => true)
      (fun name => !name.hasSurrogate)

/-- Whether a value is an artifact that can be sent. -/
def isArtifact : Json → Bool
  | .object members => members.all fun m => isSendable m.2
  | _ => false

/-- The response to a source that compiled. -/
def artifacts (value : Json) : Response :=
  match value with
  | .object contracts =>
    if contracts.all fun m => isArtifact m.2 then ofJson 200 .artifacts value else serverError
  | _ => serverError

def notice (status : Nat) (detail : Text) : Response :=
  ofJson status .error (.object [("detail", .text detail)])

def ofBodyFault : BodyFault → Response
  | .notRecord => refusal 400 (.text "Input should be a valid dictionary or object to extract fields from")
  | .sourceNotText => refusal 400 (.text "Input should be a valid string")
  | .malformed => refusal 400 (.text "JSON decode error")
  | .unreadable => notice 400 "There was an error parsing the body"

/-- The message of the first of some field errors, whatever it is; without one a request is invalid. -/
def messageOf : List Json → Except ReportFault Json
  | [] => .ok (.text "Invalid request")
  | .object members :: _ => .ok ((Json.lookup "msg" members).getD (.text "Invalid request"))
  | first :: _ => .error (.noMembers first.kind)

/-- The response to a list of field errors, or why there is none. -/
def ofFieldErrors (errors : List Json) : Except ReportFault Response := do
  let message ← messageOf errors
  match ReportFault.of? message with
  | some fault => throw fault
  | none => return refusal 400 message

def ofFailure (failure : Failure) : Response :=
  refusal (if failure.isForClient then 400 else 500) failure.message

end Response

end SolidityGateway
