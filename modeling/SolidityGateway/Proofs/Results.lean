import SolidityGateway.Proofs.Calls

/-!
What a compilation returns. Artifacts are an object of objects (`Json.IsArtifacts`), and a result should
be artifacts. It is taken out of the output as it stands there under the name of the source, and only
where nothing stands there it is the empty object; nothing looks at what was taken before it is to be
sent. `result_of_output` says that a result is artifacts just if what stands there is, and that, for
outputs that can be sent, the answers of 500 without a record are those to the results that are not.
-/

namespace SolidityGateway

/-- An object of objects. -/
def Json.IsArtifacts (v : Json) : Prop :=
  ∃ contracts, v = .object contracts ∧ ∀ m ∈ contracts, ∃ members, m.2 = .object members

/-- An answer of 500 that is not recorded as one error. -/
def Exchange.Unrecorded (exchange : Exchange) : Prop :=
  exchange.response.status = 500 ∧ (exchange.log.filter fun r => r.level = .error).length ≠ 1

/-- A value without surrogates and infinite numbers that is nested no deeper than some levels. -/
structure Response.Fits (levels : Nat) (v : Json) : Prop where
  strict : isStrict v = true
  height : v.height ≤ levels

/-- What the compiler writes for a source can be sent: the limit is the one for the values inside an
artifact, which lie four levels below the output. -/
def Service.WritesSendable (service : Service) (compiler : Compiler) (source : Text) : Prop :=
  ∃ output, (service.submit compiler (service.document (.text source))).result = .ok output ∧
    ∀ value, Json.parseText output = .ok value → Response.Fits (Response.heightLimit + 4) value

/-! ## Values -/

theorem Json.isArtifacts_empty : (Json.object []).IsArtifacts :=
  ⟨[], rfl, fun _ hm => absurd hm List.not_mem_nil⟩

theorem Json.isArtifacts_getD {entry : Option Json} :
    (entry.getD (.object [])).IsArtifacts ↔ ∀ v, entry = some v → v.IsArtifacts := by
  cases entry with
  | none =>
    apply iff_of_true isArtifacts_empty
    intro v h
    cases h
  | some v =>
    constructor
    · intro h w hw
      obtain rfl := Option.some.inj hw
      exact h
    · intro h
      exact h v rfl

namespace Response

variable {levels : Nat} {v : Json}

theorem Fits.empty : Fits (levels + 1) (.object []) := ⟨rfl, Nat.le_add_left 1 levels⟩

theorem Fits.lookup {members : List (Text × Json)} (h : Fits (levels + 1) (.object members))
    {name : Text} (hv : Json.lookup name members = some v) : Fits levels v where
  strict := ((Json.all_object _ _ members).1 h.strict _ (Json.mem_of_lookup hv)).2
  height := (Json.height_object_le members).1 h.height _ (Json.mem_of_lookup hv)

theorem Fits.item {items : List Json} (h : Fits (levels + 1) (.array items)) (hv : v ∈ items) :
    Fits levels v where
  strict := (Json.all_array _ _ items).1 h.strict v hv
  height := (Json.height_array_le items).1 h.height v hv

/-- A value that can be sent is answered with 500 just if it is not artifacts. -/
theorem status_artifacts_iff (h : Fits (heightLimit + 2) v) :
    (artifacts v).status = 500 ↔ ¬v.IsArtifacts := by
  constructor
  · intro hstatus hartifacts
    obtain ⟨contracts, rfl, hobjects⟩ := hartifacts
    rw [artifacts_of_objects h.strict hobjects h.height] at hstatus
    cases hstatus
  · intro hbad
    cases v with
    | object contracts =>
      -- what passes the check before it is sent is an object of objects, whatever these hold
      have hnone : (contracts.all fun m => isArtifact m.2) ≠ true := by
        intro hall
        refine hbad ⟨contracts, rfl, ?_⟩
        intro m hm
        have hartifact := List.all_eq_true.1 hall m hm
        cases hvalue : m.2 with
        | object members => exact ⟨members, rfl⟩
        | _ => rw [hvalue] at hartifact; cases hartifact
      rw [artifacts, if_neg hnone]
      rfl
    | _ => rfl

end Response

/-! ## Verdicts -/

namespace Policy

variable {policy : Policy} {name : Text} {output : Json} {levels : Nat}

theorem fits_message (hs : Response.Fits (levels + 4) output) {failure : Failure}
    (h : policy.verdict name output = .error failure) (hclient : failure.isForClient = true) :
    Response.Fits (levels + 1) failure.message := by
  rcases verdict_error h with hkind | ⟨members, items, first, diagnostics, rfl, herrors, hfirst, rfl⟩
  · cases hkind <;> cases hclient
  · have hdiagnostic : Response.Fits (levels + 2) (.object first) := (hs.lookup herrors).item hfirst
    have htext : Response.Fits (levels + 1) (.text []) := ⟨rfl, Nat.le_add_left 1 levels⟩
    exact Json.orElse_of (fun _ hw => hdiagnostic.lookup hw)
      (Json.orElse_of (fun _ hw => hdiagnostic.lookup hw) htext)

theorem fits_artifacts (hs : Response.Fits (levels + 3) output) {artifacts : Json}
    (h : policy.verdict name output = .ok artifacts) : Response.Fits (levels + 1) artifacts := by
  obtain ⟨members, contracts, rfl, hcontracts, rfl⟩ := verdict_ok h
  have hfound : Response.Fits (levels + 2) (.object contracts) := by
    rw [← hcontracts]
    exact Json.orElse_of (fun _ hw => hs.lookup hw) Response.Fits.empty
  cases hentry : Json.lookup name contracts with
  | none => exact Response.Fits.empty
  | some v => exact hfound.lookup hentry

end Policy

/-! ## Answers -/

namespace Gateway

variable {service : Service} {compiler : Compiler}

theorem errors_compileLog {failure : Failure} (h : failure.isForClient = false) :
    ((compileLog failure).filter fun r => r.level = .error).length = 1 := by
  cases failure with
  | missingSource | rejected | refused => cases h
  | _ => rfl

theorem not_unrecorded_of_failed {source : Option Text} {failure : Failure}
    (h : (service.compile compiler source).result = .error failure)
    (hs : failure.isForClient = true → Response.isStrict failure.message = true) :
    ¬(compile service compiler source).Unrecorded := by
  intro hunrecorded
  obtain ⟨hstatus, hlog⟩ := hunrecorded
  simp only [compile, h] at hstatus hlog
  cases hclient : failure.isForClient with
  | true =>
    have hhanded : handedOver failure = failure := by
      cases failure with
      | exhausted => cases hclient
      | _ => rfl
    rw [hhanded, Response.ofFailure, hclient, Response.status_refusal_of_isStrict (hs hclient)] at hstatus
    cases hstatus
  | false => exact hlog (errors_compileLog (by rw [isForClient_handedOver, hclient]))

/-- A result that can be sent is answered without a record just if it is not artifacts. -/
theorem unrecorded_iff_of_result {source : Option Text} {artifacts : Json}
    (h : (service.compile compiler source).result = .ok artifacts)
    (hfits : Response.Fits (Response.heightLimit + 2) artifacts) :
    (compile service compiler source).Unrecorded ↔ ¬artifacts.IsArtifacts := by
  rw [compile_ok _ _ h, Exchange.Unrecorded, Response.status_artifacts_iff hfits]
  -- the log of a result is empty
  exact and_iff_left Nat.zero_ne_one

section
variable {source : Option Text}
  (hsendable : ∀ t, source = some t → t ≠ [] → service.WritesSendable compiler t)
include hsendable

theorem isStrict_message_of_failed {failure : Failure}
    (h : (service.compile compiler source).result = .error failure)
    (hclient : failure.isForClient = true) : Response.isStrict failure.message = true := by
  match source, h, hsendable with
  | none, h, _ | some [], h, _ =>
    obtain rfl := Except.error.inj h
    rfl
  | some (c :: t), h, hsendable =>
    have hne := List.cons_ne_nil c t
    obtain ⟨output, houtput, hvalues⟩ := hsendable _ rfl hne
    rw [Service.compile_of_submit _ _ hne houtput] at h
    rcases Service.judge_error h with ⟨e, rfl⟩ | ⟨value, hvalue, hverdict⟩
    · cases hclient
    · exact (Policy.fits_message (hvalues value hvalue) hverdict hclient).strict

theorem fits_result {artifacts : Json}
    (h : (service.compile compiler source).result = .ok artifacts) :
    Response.Fits (Response.heightLimit + 2) artifacts := by
  obtain ⟨t, output, hsource, hne, houtput, hjudge⟩ := Service.compile_ok h
  obtain ⟨written, hwritten, hvalues⟩ := hsendable t hsource hne
  obtain rfl := Except.ok.inj (hwritten.symm.trans houtput)
  obtain ⟨value, hvalue, hverdict⟩ := Service.judge_ok hjudge
  exact Policy.fits_artifacts (hvalues value hvalue) hverdict

theorem unrecorded_compile_iff : (compile service compiler source).Unrecorded ↔
    ∃ artifacts, (service.compile compiler source).result = .ok artifacts ∧ ¬artifacts.IsArtifacts := by
  cases hresult : (service.compile compiler source).result with
  | error failure =>
    apply iff_of_false
    · exact not_unrecorded_of_failed hresult (isStrict_message_of_failed hsendable hresult)
    · intro h
      obtain ⟨artifacts, hok, -⟩ := h
      cases hok
  | ok artifacts =>
    rw [unrecorded_iff_of_result hresult (fits_result hsendable hresult)]
    constructor
    · intro hbad
      exact ⟨artifacts, rfl, hbad⟩
    · intro h
      obtain ⟨other, hok, hbad⟩ := h
      obtain rfl := Except.ok.inj hok
      exact hbad

end

/-- A request for a compilation is answered without a record just if it carries a source with a result
that is not artifacts. -/
theorem unrecorded_handle_iff {request : Request}
    (hroute : Route.of request.method request.path = .endpoint .compile)
    (hsendable : ∀ source, request.Carries source → source ≠ [] →
      service.WritesSendable compiler source) :
    (handle service compiler request).Unrecorded ↔ ∃ source artifacts, request.Carries source ∧
      (service.compile compiler (some source)).result = .ok artifacts ∧ ¬artifacts.IsArtifacts := by
  have hcarries (source : Text) :
      request.Carries source ↔ Submission.ofRequest request = .ok (some source) := by
    rw [Request.carries_iff, and_iff_right hroute]
  cases hsubmission : Submission.ofRequest request with
  | error fault =>
    apply iff_of_false
    · intro h
      have hstatus := Response.status_ofBodyFault fault
      rw [handle_of_fault _ _ hroute hsubmission] at h
      cases hstatus.symm.trans h.1
    · intro h
      obtain ⟨source, _, hsource, -⟩ := h
      cases hsubmission.symm.trans ((hcarries source).1 hsource)
  | ok submitted =>
    have hsent (t : Text) (ht : submitted = some t) : request.Carries t :=
      (hcarries t).2 (ht ▸ hsubmission)
    rw [handle_of_accepted _ _ hroute hsubmission,
      unrecorded_compile_iff fun t ht => hsendable t (hsent t ht)]
    constructor
    · intro h
      obtain ⟨artifacts, hresult, hbad⟩ := h
      obtain ⟨source, _, hsource, -⟩ := Service.compile_ok hresult
      exact ⟨source, artifacts, hsent source hsource, hsource ▸ hresult, hbad⟩
    · intro h
      obtain ⟨source, artifacts, hsource, h⟩ := h
      obtain rfl := Except.ok.inj (hsubmission.symm.trans ((hcarries source).1 hsource))
      exact ⟨artifacts, h⟩

/-- **A result is artifacts just if what the output holds under the source's name is**, and for outputs
that can be sent the answers of 500 that are not recorded as one error are those to results that are not
artifacts. -/
theorem result_of_output (service : Service) (compiler : Compiler) :
    (∀ source artifacts, (service.compile compiler (some source)).result = .ok artifacts →
      ∃ output members contracts,
        (service.submit compiler (service.document (.text source))).result = .ok output ∧
        Json.parseText output = .ok (.object members) ∧
        Json.orElse (Json.lookup "contracts" members) (.object []) = .object contracts ∧
        artifacts = (Json.lookup service.sourceName contracts).getD (.object []) ∧
        (artifacts.IsArtifacts ↔
          ∀ entry, Json.lookup service.sourceName contracts = some entry → entry.IsArtifacts)) ∧
    ∀ request : Request, Route.of request.method request.path = .endpoint .compile →
      (∀ source, request.Carries source → source ≠ [] → service.WritesSendable compiler source) →
      ((handle service compiler request).Unrecorded ↔
        ∃ source artifacts, request.Carries source ∧
          (service.compile compiler (some source)).result = .ok artifacts ∧ ¬artifacts.IsArtifacts) := by
  constructor
  · intro source artifacts h
    obtain ⟨t, output, ht, -, houtput, hjudge⟩ := Service.compile_ok h
    obtain rfl := Option.some.inj ht
    obtain ⟨value, hvalue, hverdict⟩ := Service.judge_ok hjudge
    obtain ⟨members, contracts, rfl, hcontracts, rfl⟩ := Policy.verdict_ok hverdict
    exact ⟨output, members, contracts, houtput, hvalue, hcontracts, rfl, Json.isArtifacts_getD⟩
  · intro request hroute hsendable
    exact unrecorded_handle_iff hroute hsendable

/-- An output with null in place of artifacts. -/
def nullOutput : Json := .object [("contracts", .object [("contract.sol", .null)])]

def nullCompiler : Compiler := Script.compiler ⟨"/usr/bin/solc", none, nullOutput.write .ascii, none⟩

/-- A result that is null is answered with 500 and leaves no record. -/
theorem result_of_null :
    (Service.compile ⟨none, none, "contract.sol", .strict⟩ nullCompiler
      (some (Text.ofString "x"))).result = .ok .null ∧
    (handle ⟨none, none, "contract.sol", .strict⟩ nullCompiler
      (Request.submitting (Text.ofString "x"))).Unrecorded := by
  have hread : Json.parseText (nullOutput.write .ascii) = .ok nullOutput :=
    IsDocument.parseText_write_of_pairFree ⟨rfl, rfl, by decide⟩ rfl
  have houtput (document : Json) : (Service.submit ⟨none, none, "contract.sol", .strict⟩ nullCompiler
      document).result = .ok (nullOutput.write .ascii) := rfl
  have hresult : (Service.compile ⟨none, none, "contract.sol", .strict⟩ nullCompiler
      (some (Text.ofString "x"))).result = .ok .null := by
    rw [Service.compile_of_submit _ _ (by decide) (houtput _), Service.judge, hread]
    rfl
  have hsubmits := Request.submits_submitting (Text.ofString "x")
  refine ⟨hresult, ?_⟩
  rw [(result_of_output _ _).2 _ hsubmits.route]
  · refine ⟨_, _, hsubmits.carries rfl, hresult, ?_⟩
    intro h
    obtain ⟨contracts, heq, -⟩ := h
    cases heq
  · intro source hsource hne
    refine ⟨_, houtput _, ?_⟩
    intro value hvalue
    obtain rfl := Except.ok.inj (hread.symm.trans hvalue)
    exact ⟨rfl, by decide⟩

end Gateway

end SolidityGateway
