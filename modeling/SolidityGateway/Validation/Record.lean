import SolidityGateway.Validation.Scalar

/-!
Records of texts, the shapes of the messages that are exchanged. A record has named fields, which
hold texts; one that is optional may be absent or null. `Shape.artifacts` is the shape of a result, an
object of objects. Checking keeps the fields of the shape and drops all others. An error names its
field in characters only.
-/

namespace SolidityGateway

/-- The shape of a message. -/
inductive Shape
  /-- The fields of a record, each with whether it is optional. -/
  | record (label : String) (fields : List (Text × Bool))
  | artifacts

namespace Shape

def submission : Shape := record "CompileRequest" [("source", true)]

def refusal : Shape := record "ErrorResponse" [("error", false)]

def health : Shape := record "HealthResponse" [("status", false)]

def version : Shape := record "VersionResponse" [("solc_version", false), ("source_name", false)]

/-- The value of a field, or what is wrong with it. -/
def checkField (members : List (Text × Json)) (name : Text) (optional : Bool) : Except Complaint Json :=
  match Json.lookup name members, optional with
  | none, true => .ok .null
  | none, false => .error .missing
  | some .null, true => .ok .null
  | some value, _ => (Scalar.text value).map Json.text

/-- The values that were accepted, or every error in order. -/
def gather : List (Text × Except Complaint Json) → Except (List FieldError) (List (Text × Json))
  | [] => .ok []
  | (name, result) :: rest =>
    match result, gather rest with
    | .ok value, .ok values => .ok ((name, value) :: values)
    | .ok _, .error errors => .error errors
    | .error complaint, .ok _ => .error [⟨[name.replaceSurrogates], complaint⟩]
    | .error complaint, .error errors => .error (⟨[name.replaceSurrogates], complaint⟩ :: errors)

def checkArtifact : Json → Except Complaint Json
  | .object members => .ok (.object members)
  | _ => .error .notObject

def check (shape : Shape) (value : Json) : Except (List FieldError) Json :=
  match shape, value with
  | record _ fields, .object members =>
    (gather (fields.map fun f => (f.1, checkField members f.1 f.2))).map Json.object
  | record label _, _ => .error [⟨[], .notRecord label⟩]
  | artifacts, .object members =>
    (gather (members.map fun m => (m.1, checkArtifact m.2))).map Json.object
  | artifacts, _ => .error [⟨[], .notObject⟩]

end Shape

end SolidityGateway
