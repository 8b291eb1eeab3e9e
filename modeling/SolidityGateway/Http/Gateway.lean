import SolidityGateway.Http.Route
import SolidityGateway.Http.Response
import SolidityGateway.Service.Basic
import SolidityGateway.Log

/-!
The gateway: requests in, exchanges out. An exchange is the response with what was logged and what
was asked of the compiler. A failed compilation becomes a refusal of the client's source or a
server's failure, and each of the two is logged in its way; a failed question for the version is
always the server's. Nothing of a request outlives its exchange but the compiler that is put in force
before it.

Every request is answered here. A limit on the compilations at a time belongs to the gateway that has
started (`Application`), which answers as this one does unless there is no room for a compilation.
-/

namespace SolidityGateway

/-- What becomes of a request. -/
structure Exchange where
  response : Response
  log : List LogRecord
  calls : List Call

namespace Gateway

def compileLogger : String := "solc_server.routes.compile"

def metaLogger : String := "solc_server.routes.meta"

/-- A failure as it arrives from the task that compiles; the end of a sequence cannot pass. -/
def handedOver : Failure → Failure
  | .exhausted _ => .other "RuntimeError" "coroutine raised StopIteration"
  | failure => failure

/-- What a failed compilation leaves in the log. -/
def compileLog : Failure → List LogRecord
  | .rejected _ diagnostics =>
    [⟨.info, compileLogger,
      ("Compilation rejected with " : Text) ++ Text.ofNat diagnostics.length ++ " diagnostic(s)"⟩]
  | failure =>
    if failure.isForClient then [] else [⟨.error, compileLogger, "Compilation failed unexpectedly"⟩]

def compile (service : Service) (compiler : Compiler) (source : Option Text) : Exchange :=
  let run := service.compile compiler source
  match run.result with
  | .ok artifacts => ⟨.artifacts artifacts, [], run.calls⟩
  | .error failure =>
    ⟨.ofFailure (handedOver failure), compileLog (handedOver failure), run.calls⟩

def version (service : Service) (compiler : Compiler) : Exchange :=
  let run := service.version compiler
  match run.result with
  | .ok version =>
    let value := .object [("solc_version", .text version), ("source_name", .text service.sourceName)]
    ⟨if Response.isStrict value then .ofJson 200 .artifacts value else .serverError, [], run.calls⟩
  | .error failure =>
    ⟨.refusal 500 failure.message, [⟨.error, metaLogger, "Unable to determine solc version"⟩], run.calls⟩

/-- A response that the compiler has no part in. -/
def silent (response : Response) : Exchange := ⟨response, [], []⟩

def handle (service : Service) (compiler : Compiler) (request : Request) : Exchange :=
  match Route.of request.method request.path with
  | .endpoint .compile =>
    match Submission.ofRequest request with
    | .ok source => compile service compiler source
    | .error fault => silent (.ofBodyFault fault)
  | .endpoint .version => version service compiler
  | .endpoint .health => silent (.ofJson 200 .artifacts (.object [("status", .text "healthy")]))
  | .wrongMethod e =>
    let refused := Response.notice 405 "Method Not Allowed"
    silent { refused with headers := ("allow", e.method) :: refused.headers }
  | .sentOn path =>
    silent ⟨307, [("location", Route.address path (request.header? "host") request.query)], []⟩
  | .unknown => silent (.notice 404 "Not Found")

/-- A request, and the compiler that is put in force before it. -/
structure Arrival where
  compiler : Option Compiler
  request : Request

/-- What becomes of the requests of a gateway, one after the other. -/
def serve (service : Service) : Compiler → List Arrival → List Exchange
  | _, [] => []
  | compiler, arrival :: rest =>
    let inForce := arrival.compiler.getD compiler
    handle service inForce arrival.request :: serve service inForce rest

end Gateway

end SolidityGateway
