import SolidityGateway.Validation.Record
import SolidityGateway.Proofs.Calls

/-!
Which failures are answered in the shape that is declared for them. That shape is a status for the
client's or the server's fault and a JSON object whose only member is the text `error`
(`Response.IsDeclaredFailure`). A compiler's own failures are worded by texts, but a rejection is worded
by whatever the compiler wrote there: `refusal_iff_worded` says that a failure is answered in the
declared shape just if its wording is a text of characters.
-/

namespace SolidityGateway

/-- An object is a refusal just if it holds a text as its only member. -/
theorem Shape.check_refusal_iff {value : Json} :
    refusal.check value = .ok value ↔ ∃ t, value = .object [("error", .text t)] := by
  constructor
  · intro h
    cases value with
    | object members =>
      simp only [check, refusal, List.map_cons, List.map_nil, checkField] at h
      cases hlookup : Json.lookup "error" members with
      | none => rw [hlookup] at h; cases h
      | some v =>
        rw [hlookup] at h
        -- the check keeps that one member, and only of a text
        cases v with
        | text t => exact ⟨t, (Except.ok.inj h).symm⟩
        | _ => cases h
    | _ => cases h
  · intro h
    obtain ⟨t, rfl⟩ := h
    rfl

namespace Response

/-- A failure in the shape that is declared for it. -/
structure IsDeclaredFailure (response : Response) : Prop where
  status : response.status = 400 ∨ response.status = 500
  contentType : response.headers = [(Text.ofString "content-type", Text.ofString "application/json")]
  body : ∃ value, response.value? = some value ∧ Shape.refusal.check value = .ok value

/-- A response has the declared shape just if the message is a text of characters, and then its body is
the refusal with that text. -/
structure Tells (response : Response) (message : Json) : Prop where
  shape : response.IsDeclaredFailure ↔ ∃ t, message = .text t ∧ t.hasSurrogate = false
  body : ∀ t, message = .text t → t.hasSurrogate = false → response.body = refusalText (.text t)

theorem not_isDeclaredFailure_serverError : ¬serverError.IsDeclaredFailure := by
  intro h
  exact absurd h.contentType (by decide)

theorem tells_refusal {status : Nat} {message : Json} (hr : Json.Reading 987 message)
    (hstatus : status = 400 ∨ status = 500) : (refusal status message).Tells message := by
  by_cases hstrict : isStrict message = true
  · obtain ⟨hs, hvalue⟩ : (refusal status message).status = status ∧
        (refusal status message).value? = some (.object [("error", message)]) :=
      refusal_of_isStrict hr (by decide) hstrict
    have hrefusal : refusal status message = ofJson status .error (.object [("error", message)]) :=
      if_pos hstrict
    refine ⟨⟨?_, ?_⟩, ?_⟩
    · intro hshape
      obtain ⟨value, hread, hcheck⟩ := hshape.body
      obtain rfl := Option.some.inj (hvalue.symm.trans hread)
      obtain ⟨t, ht⟩ := Shape.check_refusal_iff.1 hcheck
      simp only [Json.object.injEq, List.cons.injEq, Prod.mk.injEq, true_and, and_true] at ht
      subst ht
      exact ⟨t, rfl, isStrict_text.1 hstrict⟩
    · intro hworded
      obtain ⟨t, rfl, -⟩ := hworded
      refine ⟨?_, ?_, _, hvalue, rfl⟩
      · rw [hs]
        exact hstatus
      · rw [hrefusal]
        rfl
    · intro t ht _
      rw [hrefusal, ht]
      rfl
  · have hworded : ∀ t, message = .text t → t.hasSurrogate ≠ false := by
      rintro t rfl ht
      exact hstrict (isStrict_text.2 ht)
    rw [refusal_of_not_isStrict (Bool.not_eq_true _ ▸ hstrict)]
    refine ⟨⟨?_, ?_⟩, ?_⟩
    · intro hshape
      exact absurd hshape not_isDeclaredFailure_serverError
    · intro h
      obtain ⟨t, ht, hfree⟩ := h
      exact absurd hfree (hworded t ht)
    · intro t ht hfree
      exact absurd hfree (hworded t ht)

end Response

namespace Gateway

variable {service : Service} {compiler : Compiler}

theorem worded_handedOver {failure : Failure} (h : failure.message = .text failure.text) :
    ∃ t, (handedOver failure).message = .text t := by
  cases failure with
  | exhausted => exact ⟨_, rfl⟩
  | _ => exact ⟨_, h⟩

section
variable (hworded : ∀ failure, compiler.Raises failure → failure.message = .text failure.text)
include hworded

/-- As it arrives, the wording of a failed compilation is a value that was read. -/
theorem reading_handedOver {source : Option Text} {failure : Failure}
    (h : (service.compile compiler source).result = .error failure) :
    Json.Reading 987 (handedOver failure).message := by
  rcases Service.compile_error h with rfl | h | ⟨_, _, -, -, h⟩
  · exact Json.Reading.text _
  · obtain ⟨t, ht⟩ := worded_handedOver (hworded failure h)
    rw [ht]
    exact Json.Reading.text t
  · have hreportable := Service.judge_failed h
    rw [handedOver_of_reportable hreportable]
    exact hreportable.reading

theorem worded_version {failure : Failure} (h : (service.version compiler).result = .error failure) :
    failure.message = .text failure.text := by
  rcases Service.version_error h with h | ⟨banner, rfl⟩
  · exact hworded failure h
  · rfl

end

/-- **A failure is answered in the declared shape just if its wording is a text of characters**, and it
is that text which is answered. The compiler's own failures are worded by texts. -/
theorem refusal_iff_worded (service : Service) {compiler : Compiler}
    (hworded : ∀ failure, compiler.Raises failure → failure.message = .text failure.text) :
    (∀ (request : Request) (source : Option Text) (failure : Failure),
      Route.of request.method request.path = .endpoint .compile →
      Submission.ofRequest request = .ok source →
      (service.compile compiler source).result = .error failure →
      (handle service compiler request).response.Tells (handedOver failure).message) ∧
    ∀ (request : Request) (failure : Failure), request.AsksVersion →
      (service.version compiler).result = .error failure →
      (handle service compiler request).response.Tells (.text failure.text) := by
  constructor
  · intro request source failure hroute hsource h
    have hresponse : (handle service compiler request).response = .ofFailure (handedOver failure) := by
      rw [handle_of_accepted _ _ hroute hsource]
      simp only [compile, h]
    rw [hresponse, Response.ofFailure]
    refine Response.tells_refusal (reading_handedOver hworded h) ?_
    split
    · exact .inl rfl
    · exact .inr rfl
  · intro request failure hasks h
    have hresponse : (handle service compiler request).response = .refusal 500 failure.message := by
      rw [handle_of_asksVersion _ _ hasks]
      simp only [version, h]
    rw [hresponse, worded_version hworded h]
    exact Response.tells_refusal (Json.Reading.text _) (.inr rfl)

/-- An output whose only diagnostic is worded by a number. -/
def numberOutput : Json := .object [("errors", .array [.object [("message", .int 5)]])]

def numberCompiler : Compiler :=
  Script.compiler ⟨"/usr/bin/solc", none, numberOutput.write .ascii, none⟩

/-- A rejection that is worded by a number is not answered in the declared shape. -/
theorem refusal_of_number :
    ¬(handle ⟨none, none, "contract.sol", .strict⟩ numberCompiler
      (Request.submitting (Text.ofString "x"))).response.IsDeclaredFailure := by
  have hworded : ∀ failure, numberCompiler.Raises failure → failure.message = .text failure.text := by
    intro failure h
    cases h with
    | locate release h => cases h
    | compile binary input h => cases h
    | banner binary h => cases h
  have hread : Json.parseText (numberOutput.write .ascii) = .ok numberOutput :=
    IsDocument.parseText_write_of_pairFree ⟨by decide +kernel, rfl, by decide⟩ rfl
  have houtput (document : Json) : (Service.submit ⟨none, none, "contract.sol", .strict⟩ numberCompiler
      document).result = .ok (numberOutput.write .ascii) := rfl
  have hrejected : (Service.compile ⟨none, none, "contract.sol", .strict⟩ numberCompiler
      (some (Text.ofString "x"))).result =
        .error (.rejected (.int 5) [.object [("message", .int 5)]]) := by
    rw [Service.compile_of_submit _ _ (by decide) (houtput _), Service.judge, hread]
    rfl
  have hsubmits := Request.submits_submitting (Text.ofString "x")
  have htells := (refusal_iff_worded _ hworded).1 _ _ _ hsubmits.route (hsubmits.ofRequest rfl) hrejected
  rw [htells.shape]
  intro h
  obtain ⟨t, ht, -⟩ := h
  cases ht

end Gateway

end SolidityGateway
