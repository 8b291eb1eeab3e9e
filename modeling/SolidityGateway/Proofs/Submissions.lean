import SolidityGateway.Proofs.Calls

/-!
Which bodies are no submission. `Request.HasFault` goes through a body layer by layer: its type, its
bytes, its text, its value and the source in it. `Submission.ofRequest_eq_error` says that the bodies at
fault are those that are turned away. A fault is explained to the client, with one exception: bytes that
are no text, and texts beyond the limits of the reader, are answered by a notice of another shape
(`faulty_body_is_explained`).
-/

namespace SolidityGateway

/-! ## Faults -/

/-- A value that is neither null nor an object, or an object whose source is neither null nor a text. -/
inductive Json.Unfit : Json → BodyFault → Prop
  | noObject (value : Json) (hnull : value ≠ .null) (hobject : ∀ members, value ≠ .object members) :
    Unfit value .notRecord
  | badSource (members : List (Text × Json)) (source : Json)
    (hsource : lookup "source" members = some source) (hnull : source ≠ .null)
    (htext : ∀ t, source ≠ .text t) : Unfit (.object members) .sourceNotText

namespace Request

variable (request : Request)

/-- The body of a request is JSON by its type and decodes to a text. -/
structure HoldsText (text : Text) : Prop where
  json : request.holdsJson = true
  decodes : Encoding.decodeAny request.body = some text

/-- What is wrong with the body of a request. -/
inductive HasFault : BodyFault → Prop
  | untyped (h : request.holdsJson = false) : HasFault .notRecord
  | undecodable (hjson : request.holdsJson = true) (h : Encoding.decodeAny request.body = none) :
    HasFault .unreadable
  | ungrammatical (text : Text) (fault : Json.Fault) (line column place : Nat)
    (htext : request.HoldsText text)
    (h : Json.parse text = .error (.malformed fault line column place)) : HasFault .malformed
  | tooLong (text : Text) (count : Nat) (htext : request.HoldsText text)
    (h : Json.parse text = .error (.tooManyDigits count)) : HasFault .unreadable
  | tooDeep (text : Text) (container : Json.Container) (htext : request.HoldsText text)
    (h : Json.parse text = .error (.tooDeep container)) : HasFault .unreadable
  | unfit (text : Text) (value : Json) (fault : BodyFault) (htext : request.HoldsText text)
    (hvalue : Json.parse text = .ok value) (h : value.Unfit fault) : HasFault fault

end Request

/-! ## Reading a submission -/

namespace Submission

variable {request : Request} {fault : BodyFault}

theorem ofValue_eq_error {value : Json} : ofValue value = .error fault ↔ value.Unfit fault := by
  constructor
  · intro h
    cases value with
    | null => cases h
    | object members =>
      simp only [ofValue] at h
      split at h
      · cases h
      · cases h
      · cases h
      · next source hnull htext hsource =>
        obtain rfl := Except.error.inj h
        exact .badSource members source hsource hnull htext
    | _ =>
      obtain rfl := Except.error.inj h
      exact .noObject _ (by intro h; cases h) (by intro _ h; cases h)
  · intro h
    cases h with
    | noObject _ hnull hobject =>
      cases value with
      | null => exact absurd rfl hnull
      | object members => exact absurd rfl (hobject members)
      | _ => rfl
    | badSource members source hsource hnull htext =>
      -- the last equation of `ofValue` holds of sources that are neither null nor a text
      simp only [ofValue, hsource]

theorem ofRequest_of_holdsText {text : Text} (h : request.HoldsText text) (hbody : request.body ≠ []) :
    ofRequest request = ofText text := by
  rw [ofRequest, if_neg hbody, if_pos h.json, ofBytes, h.decodes]

/-- **The bodies that are turned away are those at fault.** -/
theorem ofRequest_eq_error (hbody : request.body ≠ []) :
    ofRequest request = .error fault ↔ request.HasFault fault := by
  constructor
  · intro h
    cases hjson : request.holdsJson with
    | false =>
      rw [ofRequest, if_neg hbody, hjson] at h
      obtain rfl := Except.error.inj h
      exact .untyped hjson
    | true =>
      cases hdecode : Encoding.decodeAny request.body with
      | none =>
        rw [ofRequest, if_neg hbody, if_pos hjson, ofBytes, hdecode] at h
        obtain rfl := Except.error.inj h
        exact .undecodable hjson hdecode
      | some text =>
        have htext : request.HoldsText text := ⟨hjson, hdecode⟩
        rw [ofRequest_of_holdsText htext hbody, ofText] at h
        cases hparse : Json.parse text with
        | ok value =>
          rw [hparse] at h
          exact .unfit text value fault htext hparse (ofValue_eq_error.1 h)
        | error error =>
          rw [hparse] at h
          cases error with
          | malformed f line column place =>
            obtain rfl := Except.error.inj h
            exact .ungrammatical text f line column place htext hparse
          | tooManyDigits count =>
            obtain rfl := Except.error.inj h
            exact .tooLong text count htext hparse
          | tooDeep container =>
            obtain rfl := Except.error.inj h
            exact .tooDeep text container htext hparse
  · intro h
    cases h with
    | untyped h => rw [ofRequest, if_neg hbody, h]; rfl
    | undecodable hjson h => rw [ofRequest, if_neg hbody, if_pos hjson, ofBytes, h]
    | unfit text value _ htext hvalue h =>
      rw [ofRequest_of_holdsText htext hbody, ofText, hvalue]
      exact ofValue_eq_error.2 h
    | ungrammatical text f line column place htext h =>
      rw [ofRequest_of_holdsText htext hbody, ofText, h]
    | tooLong text count htext h => rw [ofRequest_of_holdsText htext hbody, ofText, h]
    | tooDeep text container htext h => rw [ofRequest_of_holdsText htext hbody, ofText, h]

end Submission

/-! ## Answers -/

namespace Response

/-- A refusal of the client that holds a text and nothing else. -/
structure Explains (response : Response) : Prop where
  status : response.status = 400
  body : ∃ t, t ≠ [] ∧ response.value? = some (.object [("error", .text t)])

/-- What the client reads in place of an explanation. -/
def unexplained : Json := .object [("detail", .text "There was an error parsing the body")]

theorem value?_ofBodyFault_unreadable : (ofBodyFault .unreadable).value? = some unexplained :=
  value?_ofJson (Json.parse_write_error rfl rfl (by decide))

theorem explains_refusal {t : Text} (hne : t ≠ []) (hs : t.hasSurrogate = false) :
    (refusal 400 (.text t)).Explains := by
  have hread : Json.Reading 0 (.text t) := Json.Reading.text t
  obtain ⟨hstatus, hvalue⟩ := refusal_of_isStrict hread (by decide) (isStrict_text.2 hs)
  exact ⟨hstatus, t, hne, hvalue⟩

/-- Every fault is explained but that a body cannot be read. -/
theorem explains_ofBodyFault (fault : BodyFault) : (ofBodyFault fault).Explains ↔ fault ≠ .unreadable := by
  cases fault with
  | unreadable =>
    apply iff_of_false
    · intro h
      obtain ⟨t, -, hvalue⟩ := h.body
      rw [value?_ofBodyFault_unreadable, Option.some.injEq, unexplained, Json.object.injEq,
        List.cons.injEq, Prod.mk.injEq] at hvalue
      exact absurd hvalue.1.1 (by decide)
    · intro h
      exact h rfl
  | _ =>
    apply iff_of_true (explains_refusal (by decide) rfl)
    intro h
    cases h

end Response

namespace Gateway

/-- **A body at fault is turned away**, without a record and without a call, with status 400. The client
reads an explanation just if the body can be read; otherwise it reads a notice of another shape. A body
without a fault is compiled. -/
theorem faulty_body_is_explained (service : Service) (compiler : Compiler) {request : Request}
    (hroute : Route.of request.method request.path = .endpoint .compile) (hbody : request.body ≠ []) :
    (∀ fault, request.HasFault fault →
      let exchange := handle service compiler request
      exchange.response.status = 400 ∧ exchange.log = [] ∧ exchange.calls = [] ∧
      (exchange.response.Explains ↔ fault ≠ .unreadable) ∧
      (fault = .unreadable → exchange.response.value? = some Response.unexplained)) ∧
    ((∀ fault, ¬request.HasFault fault) → ∃ source, Submission.ofRequest request = .ok source ∧
      handle service compiler request = compile service compiler source) := by
  constructor
  · intro fault hfault exchange
    have hexchange : exchange = silent (.ofBodyFault fault) :=
      handle_of_fault _ _ hroute ((Submission.ofRequest_eq_error hbody).2 hfault)
    rw [hexchange]
    refine ⟨Response.status_ofBodyFault fault, rfl, rfl, Response.explains_ofBodyFault fault, ?_⟩
    rintro rfl
    exact Response.value?_ofBodyFault_unreadable
  · intro hfree
    cases hsubmission : Submission.ofRequest request with
    | error fault => exact absurd ((Submission.ofRequest_eq_error hbody).1 hsubmission) (hfree fault)
    | ok source => exact ⟨source, rfl, handle_of_accepted _ _ hroute hsubmission⟩

/-- A request whose body is one byte that begins no text. -/
def byteRequest : Request :=
  ⟨"POST", "/compile", [], [("content-type", "application/json")], [0xFF]⟩

/-- What is wrong with that byte is not explained to the client. -/
theorem byte_is_not_explained :
    let exchange := handle ⟨none, none, "contract.sol", .strict⟩
      (Script.compiler ⟨"/usr/bin/solc", none, "", none⟩) byteRequest
    exchange.response.status = 400 ∧ ¬exchange.response.Explains ∧
      exchange.response.value? = some Response.unexplained := by
  have hjson : byteRequest.holdsJson = true := by
    have htype : byteRequest.header? "content-type" = some "application/json" := by
      rw [Request.header?, byteRequest]
      rfl
    rw [Request.holdsJson, htype]
    decide
  have hdecode : Encoding.decodeAny byteRequest.body = none := rfl
  have hroute : Route.of byteRequest.method byteRequest.path = .endpoint .compile := rfl
  have hfault : byteRequest.HasFault .unreadable := .undecodable hjson hdecode
  obtain ⟨hstatus, -, -, hexplains, hnotice⟩ :=
    (faulty_body_is_explained _ _ hroute (by decide)).1 _ hfault
  refine ⟨hstatus, ?_, hnotice rfl⟩
  intro h
  exact hexplains.1 h rfl

end Gateway

end SolidityGateway
