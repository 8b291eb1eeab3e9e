import SolidityGateway.Json.Parser
import SolidityGateway.Compiler.Failure

/-!
What the compiler's output amounts to. Its diagnostics stand under `errors`; a policy selects those
that a source is refused for, and the first of them words the refusal. A source that passes gets the
artifacts that stand under its name in `contracts`. The output can be any JSON value, so each look
into it may fail: members are looked up in objects only, items are taken of arrays, of objects (their
names) and of texts (their code points).
-/

namespace SolidityGateway

namespace Json

def member? (name : Text) : Json → Except Failure (Option Json)
  | object members => .ok (lookup name members)
  | value => .error (.noMembers value.kind)

/-- The items of a value. -/
def items : Json → Except Failure (List Json)
  | array items => .ok items
  | object members => .ok (members.map fun m => text m.1)
  | text t => .ok (t.map fun c => text [c])
  | value => .error (.noItems value.kind)

end Json

/-- Which diagnostics a source is refused for. -/
inductive Policy
  /-- All of them, warnings included. -/
  | strict
  /-- Those that are errors. -/
  | relaxed
deriving DecidableEq

namespace Diagnostic

def isError (diagnostic : Json) : Except Failure Bool := do
  match ← diagnostic.member? "severity" with
  | some (.text t) => return t = "error"
  | _ => return false

/-- The diagnostics that are errors, in their order; each is looked at. -/
def errors : List Json → Except Failure (List Json)
  | [] => .ok []
  | diagnostic :: rest => do
    let keep ← isError diagnostic
    let others ← errors rest
    return if keep then diagnostic :: others else others

/-- The wording of a diagnostic: the formatted one, else the bare one, else nothing. -/
def wording (diagnostic : Json) : Except Failure Json := do
  let formatted ← diagnostic.member? "formattedMessage"
  let bare ← diagnostic.member? "message"
  return Json.orElse formatted (Json.orElse bare (.text []))

end Diagnostic

/-- The diagnostics that a source is refused for. -/
def Policy.failing (policy : Policy) (diagnostics : Json) : Except Failure (List Json) := do
  let items ← diagnostics.items
  match policy with
  | .strict => return items
  | .relaxed => Diagnostic.errors items

/-- The artifacts of the source with a name, or why it is refused. -/
def Policy.verdict (policy : Policy) (sourceName : Text) (output : Json) : Except Failure Json := do
  let diagnostics ← output.member? "errors"
  match ← policy.failing (Json.orElse diagnostics (.array [])) with
  | first :: rest => throw (.rejected (← Diagnostic.wording first) (first :: rest))
  | [] =>
    let contracts ← output.member? "contracts"
    let artifacts ← (Json.orElse contracts (.object [])).member? sourceName
    return artifacts.getD (.object [])

end SolidityGateway
