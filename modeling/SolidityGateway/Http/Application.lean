import SolidityGateway.Http.Gateway
import SolidityGateway.Startup

/-!
A gateway that has started, with all that it holds while it serves: its settings, the service that they
make, the places for compilations if their number is limited, and the compiler in force. A compilation
takes a place when it begins and gives it back when it is over, whether it ended well or failed. Where
no place is free it does not begin, and its request is not answered. Requests come one after the other
here, so no compilation waits for another one to end.
-/

namespace SolidityGateway

/-- Places for compilations. -/
structure Places where
  /-- How many compilations there can be at a time. -/
  total : Nat
  /-- How many there are. -/
  taken : Nat
deriving DecidableEq

/-- A gateway that has started. -/
structure Application where
  settings : Settings
  service : Service
  places : Option Places
  compiler : Compiler

namespace Application

def start (settings : Settings) (compiler : Compiler) : Except Startup.StartError Application :=
  (Startup.limit settings).map fun limit =>
    ⟨settings, settings.service, limit.map fun n => ⟨n.toNat, 0⟩, compiler⟩

def under (app : Application) (compiler : Compiler) : Application := { app with compiler := compiler }

/-- The gateway when one more compilation has begun, if there is a place for it. -/
def enter? (app : Application) : Option Application :=
  match app.places with
  | none => some app
  | some places =>
    if places.taken < places.total then
      some { app with places := some { places with taken := places.taken + 1 } }
    else none

/-- The gateway when a compilation is over. -/
def leave (app : Application) : Application :=
  { app with places := app.places.map fun places => { places with taken := places.taken - 1 } }

def compile (app : Application) (source : Option Text) : Option Exchange × Application :=
  match app.enter? with
  | none => (none, app)
  | some busy => (some (Gateway.compile busy.service busy.compiler source), busy.leave)

def handle (app : Application) (request : Request) : Option Exchange × Application :=
  match Route.of request.method request.path, Submission.ofRequest request with
  | .endpoint .compile, .ok source => app.compile source
  | _, _ => (some (Gateway.handle app.service app.compiler request), app)

/-- What becomes of a request with the compiler that is put in force before it, and the gateway
afterwards. -/
def step (app : Application) (arrival : Gateway.Arrival) : Option Exchange × Application :=
  (app.under (arrival.compiler.getD app.compiler)).handle arrival.request

/-- What becomes of the requests of a gateway, one after the other. -/
def serve : Application → List Gateway.Arrival → List (Option Exchange)
  | _, [] => []
  | app, arrival :: rest => (app.step arrival).1 :: serve (app.step arrival).2 rest

end Application

end SolidityGateway
