import SolidityGateway.Http.Gateway
import SolidityGateway.Startup
import SolidityGateway.Proofs.Bytes
import SolidityGateway.Proofs.Readings
import SolidityGateway.Proofs.Styles

/-!
The other side of the wire. A client writes a source into an object, in ASCII, and sends that in UTF-8
(`Request.Submits`); what it gets it decodes and reads (`Response.value?`). The gateway reads the
source that was sent, and the client the value that was answered, as long as that can be sent.
-/

namespace SolidityGateway

/-! ## Texts of characters -/

namespace Text

theorem isSurrogate_ofChar (c : Char) : (CodePoint.ofChar c).isSurrogate = false := by
  have hvalid : c.toNat.isValidChar := c.valid
  simp only [Nat.isValidChar] at hvalid
  have hval : (CodePoint.ofChar c).val = c.toNat := rfl
  simp only [CodePoint.isSurrogate, hval, Bool.and_eq_false_iff, decide_eq_false_iff_not]
  omega

theorem hasSurrogate_ofString (s : String) : (ofString s).hasSurrogate = false := by
  simp [hasSurrogate, ofString, isSurrogate_ofChar]

theorem ofString_eq_nil_iff {s : String} : ofString s = [] ↔ s = "" := by
  rw [ofString, List.map_eq_nil_iff, String.toList_eq_nil_iff]

end Text

/-! ## Requests -/

def Submission.record (source : Text) : Json := .object [("source", .text source)]

/-- A request that submits a source as JSON. -/
structure Request.Submits (request : Request) (source : Text) : Prop where
  method : request.method = "POST"
  path : request.path = "/compile"
  contentType : request.header? "content-type" = some "application/json"
  body : request.body = Encoding.utf8.encode (Json.write .ascii (Submission.record source))

/-- The request that submits a source and has nothing else in it. -/
def Request.submitting (source : Text) : Request :=
  ⟨"POST", "/compile", [], [("content-type", "application/json")],
    Encoding.utf8.encode (Json.write .ascii (Submission.record source))⟩

theorem Request.submits_submitting (source : Text) : (submitting source).Submits source :=
  ⟨rfl, rfl, by rw [header?, submitting]; rfl, rfl⟩

theorem Json.write_object_head (style : Style) (members : List (Text × Json)) :
    ∃ c d rest, write style (object members) = c :: d :: rest ∧ Encoding.isPlainAscii c = true ∧
      Encoding.isPlainAscii d = true := by
  cases members with
  | nil => exact ⟨_, _, [], rfl, by decide, by decide⟩
  | cons m rest => exact ⟨_, CodePoint.ofChar '"', _, rfl, by decide, by decide⟩

theorem decodeAny_write_object (style : Json.Style) (members : List (Text × Json)) :
    Encoding.decodeAny (Encoding.utf8.encode (Json.write style (.object members))) =
      some (Json.write style (.object members)) := by
  obtain ⟨c, d, rest, hwrite, hc, hd⟩ := Json.write_object_head style members
  rw [hwrite, Encoding.decodeAny_encode_utf8 hc hd]

namespace Request.Submits

variable {request : Request} {source : Text}

theorem route (h : request.Submits source) :
    Route.of request.method request.path = .endpoint .compile := by
  rw [h.method, h.path]
  rfl

/-- **The gateway reads the source that was sent.** -/
theorem ofRequest (h : request.Submits source) (hs : source.hasSurrogate = false) :
    Submission.ofRequest request = .ok (some source) := by
  have hjson : request.holdsJson = true := by
    rw [Request.holdsJson, h.contentType]
    decide
  have hdecode : Encoding.decodeAny (Encoding.utf8.encode (Json.write .ascii (Submission.record source))) =
      some (Json.write .ascii (Submission.record source)) := decodeAny_write_object _ _
  have hparse : Json.parse (Json.write .ascii (Submission.record source)) =
      .ok (Submission.record source) := by
    refine Json.parse_write_ascii rfl rfl (by show 2 ≤ 990; omega) ?_
    simp [Submission.record, Json.surrogateFree, Json.all, Json.allMembers, hs, show
      Text.hasSurrogate "source" = false from rfl]
  have hne : request.body ≠ [] := by
    rw [h.body]
    intro hempty
    rw [hempty] at hdecode
    cases hdecode
  rw [Submission.ofRequest, if_neg hne, if_pos hjson, h.body, Submission.ofBytes, hdecode]
  simp only [Submission.ofText, hparse]
  rfl

end Request.Submits

/-! ## Responses -/

namespace Response

/-- What a client reads the body of a response as. -/
def value? (response : Response) : Option Json :=
  match Encoding.decodeAny (Encoding.utf8.encode response.body) with
  | some t => (Json.parse t).toOption
  | none => none

theorem value?_ofJson {status : Nat} {style : Json.Style} {members : List (Text × Json)}
    (h : Json.parse (Json.write style (.object members)) = .ok (.object members)) :
    (ofJson status style (.object members)).value? = some (.object members) := by
  simp only [value?, ofJson, decodeAny_write_object, h]
  rfl

theorem isStrict_text {t : Text} : isStrict (.text t) = true ↔ t.hasSurrogate = false := by
  simp [isStrict, Json.all]

theorem surrogateFree_of_isStrict {v : Json} (h : isStrict v = true) : v.surrogateFree = true := by
  refine Json.all_mono ?_ (fun _ hk => hk) v h
  intro w
  cases w <;> simp

/-- A value that was read and can be sent in a refusal holds finite numbers only. -/
theorem isWritable_of_isStrict {v : Json} (h : isStrict v = true)
    (hr : v.readable Binary64.isCanonical = true) : v.readable Layout.isWritable = true := by
  refine Json.all_and ?_ (fun _ _ _ => rfl) v h hr
  intro w
  cases w <;> simp +contextual [Json.isReadable, Layout.isWritable]

/-- **The client reads the message of a refusal**, if it was read and can be sent. -/
theorem refusal_of_isStrict {depth status : Nat} {message : Json} (hr : Json.Reading depth message)
    (hdepth : depth + 2 ≤ Json.depthLimit) (hs : isStrict message = true) :
    (refusal status message).status = status ∧
      (refusal status message).value? = some (.object [("error", message)]) := by
  have hrecord : Json.Reading (depth + 1) (.object [("error", message)]) :=
    @Json.Reading.object depth [("error", message)] (by simpa using hr)
  have hwritable : Json.readable Layout.isWritable (.object [("error", message)]) = true := by
    apply (Json.all_object _ _ _).2
    intro m hm
    obtain rfl := List.mem_singleton.1 hm
    exact ⟨rfl, isWritable_of_isStrict hs hr.readable⟩
  rw [refusal, if_pos hs]
  refine ⟨rfl, value?_ofJson (Json.parse_write_error hrecord.distinct hwritable ?_)⟩
  exact le_trans hrecord.height hdepth

theorem refusal_of_not_isStrict {status : Nat} {message : Json} (hs : isStrict message = false) :
    refusal status message = serverError := by
  rw [refusal, hs]
  rfl

theorem artifacts_of_objects {contracts : List (Text × Json)}
    (hs : isStrict (.object contracts) = true)
    (hobjects : ∀ m ∈ contracts, ∃ members, m.2 = .object members)
    (hheight : (Json.object contracts).height ≤ heightLimit + 2) :
    artifacts (.object contracts) = ofJson 200 .artifacts (.object contracts) := by
  have hfree := surrogateFree_of_isStrict hs
  have hsendable : (contracts.all fun m => isArtifact m.2) = true := by
    rw [List.all_eq_true]
    intro m hm
    obtain ⟨members, hmembers⟩ := hobjects m hm
    have hheights := (Json.height_object_le contracts).1 hheight m hm
    have hfree := ((Json.all_object _ _ contracts).1 hfree m hm).2
    rw [hmembers] at hheights hfree ⊢
    simp only [isArtifact, List.all_eq_true]
    intro n hn
    rw [isSendable, Bool.and_eq_true, decide_eq_true_eq]
    constructor
    · exact (Json.height_object_le members).1 hheights n hn
    · exact ((Json.all_object _ _ members).1 hfree n hn).2
  rw [artifacts, if_pos hsendable]

/-- **The client reads the artifacts**, if they were read and can be sent. -/
theorem artifacts_of_isStrict {depth : Nat} {contracts : List (Text × Json)}
    (hr : Json.Reading depth (.object contracts)) (hs : isStrict (.object contracts) = true)
    (hobjects : ∀ m ∈ contracts, ∃ members, m.2 = .object members)
    (hheight : (Json.object contracts).height ≤ heightLimit + 2) :
    (artifacts (.object contracts)).status = 200 ∧
      (artifacts (.object contracts)).value? = some (.object contracts) := by
  rw [artifacts_of_objects hs hobjects hheight]
  refine ⟨rfl, value?_ofJson (Json.parse_write_artifacts hr.distinct ?_ ?_ ?_)⟩
  · exact isWritable_of_isStrict hs hr.readable
  · exact le_trans hheight (by decide)
  · exact surrogateFree_of_isStrict hs

end Response

end SolidityGateway
