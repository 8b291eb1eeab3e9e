import SolidityGateway.Settings
import SolidityGateway.Log

/-!
Starting a gateway. The logger gets its handler once, however often a gateway is
built; the limit on compilations at a time is set when the gateway starts, and then a line says where
it listens. A negative limit keeps it from starting.
-/

namespace SolidityGateway.Startup

/-- Why a gateway does not start. -/
inductive StartError
  | negativeLimit
deriving DecidableEq

def StartError.message : StartError → String
  | negativeLimit => "total_tokens must be >= 0"

/-- The handlers of the logger after a gateway is built. -/
def handlersAfter (handlers : Nat) : Nat := if handlers = 0 then 1 else handlers

/-- The handlers of the logger after gateways were built, beginning without one. -/
def handlers : (built : Nat) → Nat
  | 0 => 0
  | built + 1 => handlersAfter (handlers built)

def rank : Nat := LogLevel.info.rank

def limit (settings : Settings) : Except StartError (Option Int) :=
  match settings.limit with
  | none => .ok none
  | some n => if n < 0 then .error .negativeLimit else .ok (some n)

/-- What the line at the start calls the compiler. -/
def compilerName (settings : Settings) : Text :=
  match settings.service.binary, settings.service.release with
  | some path, _ => path
  | none, some (c :: rest) => c :: rest
  | none, _ => "default"

def announcement (settings : Settings) : LogRecord :=
  ⟨.info, "solc_server.main",
    ("Solidity compiler listening at http://" : Text) ++ settings.host ++ ":" ++
      Text.ofInt settings.portNumber ++ " (solc: " ++ compilerName settings ++ ")"⟩

def log (settings : Settings) : List LogRecord :=
  match limit settings with
  | .ok _ => [announcement settings]
  | .error _ => []

end SolidityGateway.Startup
