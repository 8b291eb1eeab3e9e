import SolidityGateway.Service.Basic

/-!
Sessions with the service: steps that are taken one after the other. Only `Step.replace` changes
anything, namely the compiler in force from then on.
-/

namespace SolidityGateway

/-- One use of the service. -/
inductive Step
  | compile (source : Option Text)
  | document (source : Json)
  | executable
  /-- Hands the compiler a document that is given as JSON text. -/
  | submit (document : Text)
  | version
  /-- Selects among diagnostics that are given as JSON text. -/
  | failing (diagnostics : Text)
  | replace (compiler : Compiler)

namespace Step

def run (service : Service) (compiler : Compiler) : Step → Run Json
  | compile source => service.compile compiler source
  | document source => .done (service.document source)
  | executable => do return .text (← service.executable compiler)
  | submit t => do
    let value ← Run.ofExcept ((Json.parseText t).mapError Failure.unreadable)
    return .text (← service.submit compiler value)
  | version => do return .text (← service.version compiler)
  | failing t => do
    let value ← Run.ofExcept ((Json.parseText t).mapError Failure.unreadable)
    return .array (← Run.ofExcept (service.policy.failing value))
  | replace _ => .done .null

def next (compiler : Compiler) : Step → Compiler
  | replace other => other
  | _ => compiler

end Step

def Service.session (service : Service) : Compiler → List Step → List (Run Json)
  | _, [] => []
  | compiler, step :: rest => step.run service compiler :: service.session (step.next compiler) rest

end SolidityGateway
