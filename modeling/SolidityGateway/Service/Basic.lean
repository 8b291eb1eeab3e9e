import SolidityGateway.Service.Verdict
import SolidityGateway.Compiler.Run
import SolidityGateway.Compiler.Banner
import SolidityGateway.Json.Style

/-!
The compiling service. It wraps one source into a standard-JSON document, hands that to a compiler
and judges the output. The compiler is a path that is configured, or else the one that belongs to the
release that is configured.
-/

namespace SolidityGateway

/-- How sources are compiled. -/
structure Service where
  /-- The path of the compiler. It comes before the release. -/
  binary : Option Text
  /-- The release of the compiler. -/
  release : Option Text
  /-- The name that a source is compiled under. -/
  sourceName : Text
  policy : Policy

namespace Service

/-- The standard-JSON document that asks for every artifact of one source. -/
def document (service : Service) (source : Json) : Json :=
  .object [
    ("language", .text "Solidity"),
    ("sources", .object [(service.sourceName, .object [("content", source)])]),
    ("settings", .object [("outputSelection", .object [("*", .object [("*", .array [.text "*"])])])])]

def executable (service : Service) (compiler : Compiler) : Run Text :=
  match service.binary with
  | some path => .done path
  | none => compiler.locate service.release

/-- What the compiler writes for a document. -/
def submit (service : Service) (compiler : Compiler) (document : Json) : Run Text := do
  let binary ← service.executable compiler
  compiler.compile binary (document.write .ascii)

/-- The artifacts in what the compiler wrote, or why the source is refused. -/
def judge (service : Service) (output : Text) : Except Failure Json := do
  let value ← (Json.parseText output).mapError Failure.unreadable
  service.policy.verdict service.sourceName value

/-- Compiles a source; without one the compiler is not touched. -/
def compile (service : Service) (compiler : Compiler) (source : Option Text) : Run Json :=
  match source with
  | none | some [] => .fail .missingSource
  | some t => do
    let output ← service.submit compiler (service.document (.text t))
    Run.ofExcept (service.judge output)

def versionIn (banner : Text) : Except Failure Text :=
  match Banner.version? banner with
  | some version => .ok version
  | none => .error (.noVersion banner)

def version (service : Service) (compiler : Compiler) : Run Text := do
  let binary ← service.executable compiler
  let banner ← compiler.banner binary
  Run.ofExcept (versionIn banner)

end Service

end SolidityGateway
