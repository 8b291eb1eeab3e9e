import SolidityGateway.Proofs.Client
import SolidityGateway.Proofs.Failures
import SolidityGateway.Proofs.Relay

/-!
How a gateway answers for its service. Each exchange asks the compiler what the service asks it, and a
failed run is answered by its wording: `answers_failures` says with which status and which records. A
wording that no refusal can hold is the exception, and a plain server error the answer.
-/

namespace SolidityGateway

/-- An exchange answers with a message: the client reads it, if a refusal can hold it. Otherwise the
answer is a plain server error. Either way these records are left. -/
structure Exchange.Answers (exchange : Exchange) (status : Nat) (message : Json)
    (log : List LogRecord) : Prop where
  sent : Response.isStrict message = true → exchange.response.status = status ∧
    exchange.response.value? = some (.object [("error", message)])
  unsent : Response.isStrict message = false → exchange.response = Response.serverError
  log : exchange.log = log

/-! ## Statuses -/

namespace Response

theorem status_refusal_of_isStrict {status : Nat} {message : Json} (hs : isStrict message = true) :
    (refusal status message).status = status := by
  rw [refusal, if_pos hs]
  rfl

theorem status_refusal_server (message : Json) : (refusal 500 message).status = 500 := by
  rw [refusal]
  split <;> rfl

theorem status_ofBodyFault (fault : BodyFault) : (ofBodyFault fault).status = 400 := by
  cases fault <;> rfl

end Response

namespace Gateway

theorem isForClient_handedOver (failure : Failure) :
    (handedOver failure).isForClient = failure.isForClient := by
  cases failure <;> rfl

/-- A failed compilation is not answered as one that succeeded. -/
theorem status_compile_failed {service : Service} {compiler : Compiler} {source : Option Text}
    {failure : Failure} (h : (service.compile compiler source).result = .error failure) :
    (compile service compiler source).response.status = 500 ∨
      failure.isForClient = true ∧ (compile service compiler source).response.status = 400 := by
  simp only [compile, h, Response.ofFailure, isForClient_handedOver, Response.refusal]
  split
  · cases failure.isForClient
    · exact .inl rfl
    · exact .inr ⟨rfl, rfl⟩
  · exact .inl rfl

/-! ## Failed runs -/

def rejection (count : Nat) : LogRecord :=
  ⟨.info, compileLogger, ("Compilation rejected with " : Text) ++ Text.ofNat count ++ " diagnostic(s)"⟩

def breakdown : LogRecord := ⟨.error, compileLogger, "Compilation failed unexpectedly"⟩

def versionBreakdown : LogRecord := ⟨.error, metaLogger, "Unable to determine solc version"⟩

theorem handedOver_of_reportable {failure : Failure} (h : failure.Reportable) :
    handedOver failure = failure := by
  cases failure with
  | exhausted t => exact absurd rfl (h.notExhausted t)
  | _ => rfl

theorem answers_refusal {status : Nat} {failure : Failure} (h : failure.Reportable) (log : List LogRecord)
    (calls : List Call) :
    Exchange.Answers ⟨.refusal status failure.message, log, calls⟩ status failure.message log :=
  ⟨Response.refusal_of_isStrict h.reading (by decide), Response.refusal_of_not_isStrict, rfl⟩

section
variable {service : Service} {compiler : Compiler}

theorem compile_failed (hc : compiler.Canned) {source : Option Text} {failure : Failure}
    (h : (service.compile compiler source).result = .error failure) :
    (compile service compiler source).Answers (if failure.isForClient then 400 else 500) failure.message
      (compileLog failure) := by
  have hreportable := Service.compile_failed hc h
  simp only [compile, h, handedOver_of_reportable hreportable]
  exact answers_refusal hreportable _ _

theorem calls_compile (source : Option Text) :
    (compile service compiler source).calls = (service.compile compiler source).calls := by
  simp only [compile]
  split <;> rfl

theorem calls_version : (version service compiler).calls = (service.version compiler).calls := by
  simp only [version]
  split <;> rfl

theorem version_failed (hc : compiler.Canned) {failure : Failure}
    (h : (service.version compiler).result = .error failure) :
    (version service compiler).Answers 500 (.text failure.text) [versionBreakdown] := by
  have hraisable := Service.version_failed hc h
  rw [← hraisable.worded]
  simp only [version, h]
  exact answers_refusal hraisable.reportable _ _

/-- What is answered to a question for the version that can be told. -/
def versionRecord (service : Service) (version : Text) : Json :=
  .object [("solc_version", .text version), ("source_name", .text service.sourceName)]

theorem version_ok {v : Text} (h : (service.version compiler).result = .ok v) :
    (version service compiler).log = [] ∧
      (Response.isStrict (versionRecord service v) = true →
        (version service compiler).response.status = 200 ∧
          (version service compiler).response.value? = some (versionRecord service v)) ∧
      (Response.isStrict (versionRecord service v) = false →
        (version service compiler).response = Response.serverError) := by
  have hversion : version service compiler =
      ⟨if Response.isStrict (versionRecord service v) then .ofJson 200 .artifacts (versionRecord service v)
        else .serverError, [], (service.version compiler).calls⟩ := by
    simp only [version, h]
    rfl
  rw [hversion]
  refine ⟨rfl, ?_, ?_⟩
  · intro hs
    have hread := Json.parse_write_artifacts (v := versionRecord service v) rfl rfl
      (by show 2 ≤ 990; omega) (Response.surrogateFree_of_isStrict hs)
    simp only [hs, if_true]
    exact ⟨rfl, Response.value?_ofJson hread⟩
  · intro hs
    simp only [hs]
    rfl

end

end Gateway

/-- **A failed run is answered by its wording**, with the status and the records that its kind calls
for, and the compiler is asked what the service asks it. -/
theorem answers_failures (service : Service) {compiler : Compiler} (hcanned : compiler.Canned) :
    (∀ (source : String) (request : Request), request.Submits (Text.ofString source) →
      let run := service.compile compiler (some (Text.ofString source))
      let exchange := Gateway.handle service compiler request
      exchange.calls = run.calls ∧
      (∀ message diagnostics, run.result = .error (.rejected message diagnostics) →
        exchange.Answers 400 message [Gateway.rejection diagnostics.length]) ∧
      (∀ failure, run.result = .error failure →
        (failure = .missingSource ∨ ∃ t, failure = .refused t) →
        exchange.Answers 400 (.text failure.text) []) ∧
      (∀ failure, run.result = .error failure → failure.isForClient = false →
        exchange.Answers 500 (.text failure.text) [Gateway.breakdown])) ∧
    (∀ request : Request, request.method = "GET" → request.path = "/version" →
      let run := service.version compiler
      let exchange := Gateway.handle service compiler request
      exchange.calls = run.calls ∧
      (∀ failure, run.result = .error failure →
        exchange.Answers 500 (.text failure.text) [Gateway.versionBreakdown]) ∧
      ∀ version, run.result = .ok version →
        let record := Json.object
          [("solc_version", .text version), ("source_name", .text service.sourceName)]
        exchange.log = [] ∧
        (Response.isStrict record = true →
          exchange.response.status = 200 ∧ exchange.response.value? = some record) ∧
        (Response.isStrict record = false → exchange.response = Response.serverError)) := by
  constructor
  · intro source request hrequest run exchange
    have hexchange : exchange = Gateway.compile service compiler (some (Text.ofString source)) :=
      Gateway.handle_submission _ _ hrequest (Text.hasSurrogate_ofString source)
    rw [hexchange]
    refine ⟨Gateway.calls_compile _, ?_, ?_, ?_⟩
    · intro message diagnostics h
      exact Gateway.compile_failed hcanned h
    · intro failure h hkind
      have hanswer := Gateway.compile_failed hcanned h
      rcases hkind with rfl | ⟨t, rfl⟩ <;> exact hanswer
    · intro failure h hkind
      have hanswer := Gateway.compile_failed hcanned h
      -- the three kinds that are for the client are excluded
      cases failure with
      | missingSource | rejected | refused => cases hkind
      | _ => exact hanswer
  · intro request hmethod hpath run exchange
    have hexchange : exchange = Gateway.version service compiler := by
      have hroute : Route.of request.method request.path = .endpoint .version := by
        rw [hmethod, hpath]
        rfl
      simp only [exchange, Gateway.handle, hroute]
    rw [hexchange]
    refine ⟨Gateway.calls_version, ?_, ?_⟩
    · intro failure h
      exact Gateway.version_failed hcanned h
    · intro version h
      exact Gateway.version_ok h

/-- An output whose only diagnostic is worded by half a pair. -/
def halfOutput : Json :=
  .object [("errors", .array [.object [("message", .text [CodePoint.ofNat 0xD800])]])]

def halfCompiler : Compiler := Script.compiler ⟨"/usr/bin/solc", none, halfOutput.write .ascii, none⟩

/-- A rejection whose wording is half a pair is recorded, and answered as a server error. -/
theorem answers_half :
    let exchange := Gateway.handle ⟨none, none, "contract.sol", .strict⟩ halfCompiler
      (Request.submitting (Text.ofString "x"))
    exchange.response = Response.serverError ∧ exchange.log = [Gateway.rejection 1] := by
  have hcanned : halfCompiler.Canned := .script _ (fun f h => by cases h) (fun f h => by cases h)
  have hread : Json.parseText (halfOutput.write .ascii) = .ok halfOutput :=
    IsDocument.parseText_write_of_pairFree ⟨rfl, rfl, by decide⟩ rfl
  have hrejected : (Service.compile ⟨none, none, "contract.sol", .strict⟩ halfCompiler
      (some (Text.ofString "x"))).result = .error (.rejected (.text [CodePoint.ofNat 0xD800])
        [.object [("message", .text [CodePoint.ofNat 0xD800])]]) := by
    rw [Service.compile_eq _ _ (by decide), Run.result_andThen_ok (a := halfOutput.write .ascii) rfl,
      Run.ofExcept, Service.judge, hread]
    rfl
  have hanswer := ((answers_failures _ hcanned).1 "x" _ (Request.submits_submitting _)).2.1 _ _ hrejected
  exact ⟨hanswer.unsent rfl, hanswer.log⟩

end SolidityGateway
