import SolidityGateway.Proofs.Documents
import SolidityGateway.Proofs.Failures

/-!
What becomes of an output. The output can be any JSON value; `decides_output` says for each whether the
source is rejected, and with which diagnostics and wording, whether artifacts are returned, and which
failure stops the judgement otherwise. The two policies differ in what they look at: the strict one takes
the whole list and looks into its first item only, the relaxed one looks into every item. So one can
fail where the other goes on, and `relaxing_spares` says that this never happens to a source that the
strict policy accepts: a service that is relaxed answers as before except where a source was rejected.
-/

namespace SolidityGateway

/-! ## What stands in an output -/

def Json.IsObject (v : Json) : Prop := ∃ members, v = .object members

theorem Json.member?_of_not_object {v : Json} (h : ¬v.IsObject) (name : Text) :
    v.member? name = .error (.noMembers v.kind) := by
  cases v with
  | object members => exact absurd ⟨members, rfl⟩ h
  | _ => rfl

/-- A value that has items: a list, an object or a text. -/
inductive Json.IsListable : Json → Prop
  | array (items : List Json) : IsListable (.array items)
  | object (members : List (Text × Json)) : IsListable (.object members)
  | text (t : Text) : IsListable (.text t)

theorem Json.items_of_not_listable {v : Json} (h : ¬v.IsListable) : v.items = .error (.noItems v.kind) := by
  cases v with
  | array items => exact absurd (.array items) h
  | object members => exact absurd (.object members) h
  | text t => exact absurd (.text t) h
  | _ => rfl

theorem Json.isTruthy_orElse (value : Option Json) (other : Json) :
    (orElse value other).isTruthy = true ∨ orElse value other = other := by
  cases value with
  | none => exact .inr rfl
  | some v =>
    simp only [orElse]
    split
    · next h => exact .inl h
    · exact .inr rfl

/-- The diagnostics of an output: what it holds under `errors` if that is truthy, and else none. -/
def Json.diagnostics (members : List (Text × Json)) : Json :=
  orElse (lookup "errors" members) (.array [])

/-- The contracts of an output: what it holds under `contracts` if that is truthy, and else none. -/
def Json.contracts (members : List (Text × Json)) : Json :=
  orElse (lookup "contracts" members) (.object [])

namespace Diagnostic

/-- Whether a diagnostic is an object whose severity is the text `error`. -/
def saysError : Json → Bool
  | .object members =>
    match Json.lookup "severity" members with
    | some (.text t) => t = "error"
    | _ => false
  | _ => false

/-- The wording of a diagnostic with these members. -/
def wordingOf (members : List (Text × Json)) : Json :=
  Json.orElse (Json.lookup "formattedMessage" members)
    (Json.orElse (Json.lookup "message" members) (.text []))

theorem isError_object (members : List (Text × Json)) :
    isError (.object members) = .ok (saysError (.object members)) := by
  simp only [isError, Json.member?, bind, Except.bind, saysError]
  cases Json.lookup "severity" members with
  | none => rfl
  | some severity => cases severity <;> rfl

theorem isError_of_not_object {diagnostic : Json} (h : ¬diagnostic.IsObject) :
    isError diagnostic = .error (.noMembers diagnostic.kind) := by
  rw [isError, Json.member?_of_not_object h]
  rfl

theorem wording_object (members : List (Text × Json)) :
    wording (.object members) = .ok (wordingOf members) := rfl

theorem wording_of_not_object {diagnostic : Json} (h : ¬diagnostic.IsObject) :
    wording diagnostic = .error (.noMembers diagnostic.kind) := by
  rw [wording, Json.member?_of_not_object h]
  rfl

theorem errors_of_objects {items : List Json} (h : ∀ d ∈ items, d.IsObject) :
    errors items = .ok (items.filter saysError) := by
  induction items with
  | nil => rfl
  | cons d rest ih =>
    obtain ⟨members, rfl⟩ := h d List.mem_cons_self
    rw [errors, isError_object, ih fun d hd => h d (List.mem_cons_of_mem _ hd), List.filter_cons]
    simp only [bind, Except.bind, pure, Except.pure]

/-- The first item that is no object stops the search for errors. -/
theorem errors_of_not_object {before after : List Json} {d : Json} (h : ∀ b ∈ before, b.IsObject)
    (hd : ¬d.IsObject) : errors (before ++ d :: after) = .error (.noMembers d.kind) := by
  induction before with
  | nil =>
    rw [List.nil_append, errors, isError_of_not_object hd]
    rfl
  | cons b before ih =>
    obtain ⟨members, rfl⟩ := h b List.mem_cons_self
    rw [List.cons_append, errors, isError_object, ih fun b hb => h b (List.mem_cons_of_mem _ hb)]
    rfl

end Diagnostic

/-! ## What a policy makes of diagnostics -/

namespace Policy

/-- The diagnostics that a policy refuses a source for: the strict one all of a list that begins with an
object, the relaxed one those of a list of objects that say that they are errors. -/
inductive Refuses : Policy → Json → List Json → Prop
  | strict (first : List (Text × Json)) (rest : List Json) :
    Refuses .strict (.array (.object first :: rest)) (.object first :: rest)
  | relaxed (items : List Json) (objects : ∀ d ∈ items, d.IsObject)
      (some : items.filter Diagnostic.saysError ≠ []) :
    Refuses .relaxed (.array items) (items.filter Diagnostic.saysError)

/-- The diagnostics that a policy lets pass: the strict one none at all, the relaxed one a list of objects
of which no one says that it is an error. -/
inductive Passes : Policy → Json → Prop
  | strict : Passes .strict (.array [])
  | relaxed (items : List Json) (objects : ∀ d ∈ items, d.IsObject)
      (none : items.filter Diagnostic.saysError = []) : Passes .relaxed (.array items)

/-- The item that a policy looks into first although it is no object. -/
inductive StumblesOver : Policy → List Json → Json → Prop
  | strict (d : Json) (rest : List Json) (h : ¬d.IsObject) : StumblesOver .strict (d :: rest) d
  | relaxed (before : List Json) (d : Json) (after : List Json) (objects : ∀ b ∈ before, b.IsObject)
      (h : ¬d.IsObject) : StumblesOver .relaxed (before ++ d :: after) d

/-- The ways to take diagnostics: they are nothing to go through, an item is no object, they are refused,
or they pass. -/
inductive Takes (policy : Policy) (diagnostics : Json) : Prop
  | unlisted (h : ¬diagnostics.IsListable)
  | stumbles (items : List Json) (d : Json) (hitems : diagnostics.items = .ok items)
      (h : policy.StumblesOver items d)
  | refuses (first : List (Text × Json)) (rest : List Json)
      (h : policy.Refuses diagnostics (.object first :: rest))
  | passes (h : policy.Passes diagnostics)

variable {policy : Policy} {e d : Json} {items : List Json}

/-- An item that is no object at the beginning stops both policies. -/
theorem stumblesOver_head (policy : Policy) (rest : List Json) (h : ¬d.IsObject) :
    policy.StumblesOver (d :: rest) d := by
  cases policy with
  | strict => exact .strict d rest h
  | relaxed => exact .relaxed [] d rest (fun b hb => absurd hb List.not_mem_nil) h

/-- A list is a list of objects, or some first item of it is none. -/
theorem objects_or_first (items : List Json) :
    (∀ d ∈ items, d.IsObject) ∨ ∃ before d after, items = before ++ d :: after ∧
      (∀ b ∈ before, b.IsObject) ∧ ¬d.IsObject := by
  induction items with
  | nil => exact .inl fun d hd => absurd hd List.not_mem_nil
  | cons d rest ih =>
    by_cases hd : d.IsObject
    · rcases ih with hrest | ⟨before, other, after, rfl, hbefore, hother⟩
      · exact .inl (List.forall_mem_cons.2 ⟨hd, hrest⟩)
      · exact .inr ⟨d :: before, other, after, rfl, List.forall_mem_cons.2 ⟨hd, hbefore⟩, hother⟩
    · exact .inr ⟨[], d, rest, rfl, fun b hb => absurd hb List.not_mem_nil, hd⟩

theorem takes_array (policy : Policy) (items : List Json) : policy.Takes (.array items) := by
  cases policy with
  | strict =>
    match items with
    | [] => exact .passes .strict
    | d :: rest =>
      by_cases hd : d.IsObject
      · obtain ⟨first, rfl⟩ := hd
        exact .refuses first rest (.strict first rest)
      · exact .stumbles _ d rfl (.strict d rest hd)
  | relaxed =>
    rcases objects_or_first items with hitems | ⟨before, d, after, rfl, hbefore, hd⟩
    · cases herrors : items.filter Diagnostic.saysError with
      | nil => exact .passes (.relaxed items hitems herrors)
      | cons d rest =>
        have hmem : d ∈ items.filter Diagnostic.saysError := herrors ▸ List.mem_cons_self
        obtain ⟨first, rfl⟩ := hitems d (List.mem_filter.1 hmem).1
        have hrefuses := Refuses.relaxed items hitems (by rw [herrors]; exact List.cons_ne_nil _ _)
        rw [herrors] at hrefuses
        exact .refuses first rest hrefuses
    · exact .stumbles _ d rfl (.relaxed before d after hbefore hd)

/-- Every value that can stand for diagnostics is taken in one of these ways. -/
theorem takes (policy : Policy) (members : List (Text × Json)) :
    policy.Takes (Json.diagnostics members) := by
  have hkind := Json.isTruthy_orElse (Json.lookup "errors" members) (.array [])
  rw [← Json.diagnostics] at hkind
  cases hvalue : Json.diagnostics members with
  | array items => exact takes_array policy items
  | object names =>
    rw [hvalue] at hkind
    -- a truthy object has a name, and names are texts
    cases names with
    | nil => rcases hkind with h | h <;> cases h
    | cons m names => exact .stumbles _ _ rfl (stumblesOver_head policy _ fun ⟨_, h⟩ => by cases h)
  | text t =>
    rw [hvalue] at hkind
    cases t with
    | nil => rcases hkind with h | h <;> cases h
    | cons c t => exact .stumbles _ _ rfl (stumblesOver_head policy _ fun ⟨_, h⟩ => by cases h)
  | _ => exact .unlisted fun h => by cases h

/-! ## Verdicts -/

/-- What a policy decides on an output, for the source with a name. Members are looked for in the output,
then in a diagnostic, then in the contracts, and the first value that is no object stops the judgement;
so does a value under `errors` that has no items. -/
inductive Decides (policy : Policy) (name : Text) : Json → Except Failure Json → Prop
  | notObject (output : Json) (h : ¬output.IsObject) :
    Decides policy name output (.error (.noMembers output.kind))
  | unlisted (members : List (Text × Json)) (h : ¬(Json.diagnostics members).IsListable) :
    Decides policy name (.object members) (.error (.noItems (Json.diagnostics members).kind))
  | stumbles (members : List (Text × Json)) (items : List Json) (d : Json)
      (hitems : (Json.diagnostics members).items = .ok items) (h : policy.StumblesOver items d) :
    Decides policy name (.object members) (.error (.noMembers d.kind))
  | rejected (members first : List (Text × Json)) (rest : List Json)
      (h : policy.Refuses (Json.diagnostics members) (.object first :: rest)) :
    Decides policy name (.object members)
      (.error (.rejected (Diagnostic.wordingOf first) (.object first :: rest)))
  | noContracts (members : List (Text × Json)) (h : policy.Passes (Json.diagnostics members))
      (hcontracts : ¬(Json.contracts members).IsObject) :
    Decides policy name (.object members) (.error (.noMembers (Json.contracts members).kind))
  | accepted (members contracts : List (Text × Json)) (h : policy.Passes (Json.diagnostics members))
      (hcontracts : Json.contracts members = .object contracts) :
    Decides policy name (.object members) (.ok ((Json.lookup name contracts).getD (.object [])))

variable {name : Text} {members : List (Text × Json)}

theorem verdict_of_stumbles (hitems : (Json.diagnostics members).items = .ok items)
    (h : policy.StumblesOver items d) :
    policy.verdict name (.object members) = .error (.noMembers d.kind) := by
  rw [Json.diagnostics] at hitems
  cases h with
  | strict _ rest hd =>
    simp only [verdict, Json.member?, failing, bind, Except.bind, pure, Except.pure, hitems,
      Diagnostic.wording_of_not_object hd]
  | relaxed before _ after hbefore hd =>
    simp only [verdict, Json.member?, failing, bind, Except.bind, hitems,
      Diagnostic.errors_of_not_object hbefore hd]

/-- What the relaxed policy refuses a source for are the errors among what the strict one does. -/
theorem Refuses.tightened {diagnostics : List Json} (h : Refuses .relaxed e diagnostics) :
    ∃ first rest, Refuses .strict e (.object first :: rest) ∧
      diagnostics = (Json.object first :: rest).filter Diagnostic.saysError := by
  cases h with
  | relaxed items hitems hsome =>
    cases items with
    | nil => exact absurd rfl hsome
    | cons d rest =>
      obtain ⟨first, rfl⟩ := hitems d List.mem_cons_self
      exact ⟨first, rest, .strict first rest, rfl⟩

theorem failing_of_refuses {diagnostics : List Json} (h : policy.Refuses e diagnostics) :
    policy.failing e = .ok diagnostics := by
  cases h with
  | strict first rest => rfl
  | relaxed items hitems hsome => exact Diagnostic.errors_of_objects hitems

theorem Passes.loosened (h : Passes .strict e) : Passes .relaxed e := by
  cases h with
  | strict => exact .relaxed [] (fun d hd => absurd hd List.not_mem_nil) rfl

theorem failing_of_passes (h : policy.Passes e) : policy.failing e = .ok [] := by
  cases h with
  | strict => rfl
  | relaxed items hitems hnone => exact (Diagnostic.errors_of_objects hitems).trans (congrArg _ hnone)

theorem verdict_of_passes (h : policy.Passes (Json.diagnostics members)) :
    policy.verdict name (.object members) =
      ((Json.contracts members).member? name).map fun entry => entry.getD (.object []) := by
  have hfailing := failing_of_passes h
  rw [Json.diagnostics] at hfailing
  simp only [verdict, Json.member?, bind, Except.bind, hfailing]
  rfl

theorem verdict_of_decides {output : Json} {outcome : Except Failure Json}
    (h : policy.Decides name output outcome) : policy.verdict name output = outcome := by
  cases h with
  | notObject _ h =>
    rw [verdict, Json.member?_of_not_object h]
    rfl
  | unlisted members h =>
    have hitems := Json.items_of_not_listable h
    rw [Json.diagnostics] at hitems ⊢
    simp only [verdict, Json.member?, failing, bind, Except.bind, hitems]
  | stumbles members items d hitems h => exact verdict_of_stumbles hitems h
  | rejected members first rest h =>
    have hfailing := failing_of_refuses h
    rw [Json.diagnostics] at hfailing
    simp only [verdict, Json.member?, bind, Except.bind, hfailing, Diagnostic.wording_object]
    rfl
  | noContracts members h hcontracts =>
    rw [verdict_of_passes h, Json.member?_of_not_object hcontracts]
    rfl
  | accepted members contracts h hcontracts =>
    rw [verdict_of_passes h, hcontracts]
    rfl

theorem exists_decides (policy : Policy) (name : Text) (output : Json) :
    ∃ outcome, policy.Decides name output outcome := by
  by_cases hobject : output.IsObject
  · obtain ⟨members, rfl⟩ := hobject
    cases policy.takes members with
    | unlisted h => exact ⟨_, .unlisted members h⟩
    | stumbles items d hitems h => exact ⟨_, .stumbles members items d hitems h⟩
    | refuses first rest h => exact ⟨_, .rejected members first rest h⟩
    | passes h =>
      by_cases hcontracts : (Json.contracts members).IsObject
      · obtain ⟨contracts, hcontracts⟩ := hcontracts
        exact ⟨_, .accepted members contracts h hcontracts⟩
      · exact ⟨_, .noContracts members h hcontracts⟩
  · exact ⟨_, .notObject output hobject⟩

theorem verdict_eq_iff {output : Json} {outcome : Except Failure Json} :
    policy.verdict name output = outcome ↔ policy.Decides name output outcome := by
  constructor
  · rintro rfl
    obtain ⟨outcome, h⟩ := exists_decides policy name output
    rwa [verdict_of_decides h]
  · exact verdict_of_decides

namespace Decides

variable {output : Json}

theorem rejected_iff {message : Json} {diagnostics : List Json} :
    policy.Decides name output (.error (.rejected message diagnostics)) ↔
      ∃ members first rest, output = .object members ∧ diagnostics = .object first :: rest ∧
        policy.Refuses (Json.diagnostics members) diagnostics ∧
        message = Diagnostic.wordingOf first := by
  constructor
  · intro h
    cases h with
    | rejected members first rest h => exact ⟨members, first, rest, rfl, rfl, h, rfl⟩
  · rintro ⟨members, first, rest, rfl, rfl, h, rfl⟩
    exact .rejected members first rest h

theorem accepted_iff {artifacts : Json} :
    policy.Decides name output (.ok artifacts) ↔
      ∃ members contracts, output = .object members ∧ Json.contracts members = .object contracts ∧
        policy.Passes (Json.diagnostics members) ∧
        artifacts = (Json.lookup name contracts).getD (.object []) := by
  constructor
  · intro h
    cases h with
    | accepted members contracts h hcontracts => exact ⟨members, contracts, rfl, hcontracts, h, rfl⟩
  · rintro ⟨members, contracts, rfl, hcontracts, h, rfl⟩
    exact .accepted members contracts h hcontracts

theorem noItems_iff {kind : String} :
    policy.Decides name output (.error (.noItems kind)) ↔
      ∃ members, output = .object members ∧ ¬(Json.diagnostics members).IsListable ∧
        kind = (Json.diagnostics members).kind := by
  constructor
  · intro h
    cases h with
    | unlisted members h => exact ⟨members, rfl, h, rfl⟩
  · rintro ⟨members, rfl, h, rfl⟩
    exact .unlisted members h

theorem noMembers_iff {kind : String} :
    policy.Decides name output (.error (.noMembers kind)) ↔
      (¬output.IsObject ∧ kind = output.kind) ∨ ∃ members, output = .object members ∧
        ((∃ items d, (Json.diagnostics members).items = .ok items ∧
          policy.StumblesOver items d ∧ kind = d.kind) ∨
        (policy.Passes (Json.diagnostics members) ∧ ¬(Json.contracts members).IsObject ∧
          kind = (Json.contracts members).kind)) := by
  constructor
  · intro h
    cases h with
    | notObject _ h => exact .inl ⟨h, rfl⟩
    | stumbles members items d hitems h => exact .inr ⟨members, rfl, .inl ⟨items, d, hitems, h, rfl⟩⟩
    | noContracts members h hcontracts => exact .inr ⟨members, rfl, .inr ⟨h, hcontracts, rfl⟩⟩
  · rintro (⟨h, rfl⟩ | ⟨members, rfl, ⟨items, d, hitems, h, rfl⟩ | ⟨h, hcontracts, rfl⟩⟩)
    · exact .notObject output h
    · exact .stumbles members items d hitems h
    · exact .noContracts members h hcontracts

/-- There are no other failures. -/
theorem failure {failure : Failure} (h : policy.Decides name output (.error failure)) :
    failure.IsMismatch ∨ ∃ message diagnostics, failure = .rejected message diagnostics := by
  cases h with
  | notObject | stumbles | noContracts => exact .inl (.members _)
  | unlisted => exact .inl (.items _)
  | rejected => exact .inr ⟨_, _, rfl⟩

/-- Where the strict policy refuses nothing, the relaxed one decides the same. -/
theorem loosened {outcome : Except Failure Json} (h : Decides .strict name output outcome)
    (hnot : ∀ message diagnostics, outcome ≠ .error (.rejected message diagnostics)) :
    Decides .relaxed name output outcome := by
  cases h with
  | notObject _ h => exact .notObject output h
  | unlisted members h => exact .unlisted members h
  | stumbles members items d hitems h =>
    cases h with
    | strict _ rest hd => exact .stumbles members _ d hitems (stumblesOver_head .relaxed rest hd)
  | rejected members first rest h => exact absurd rfl (hnot _ _)
  | noContracts members h hcontracts => exact .noContracts members h.loosened hcontracts
  | accepted members contracts h hcontracts => exact .accepted members contracts h.loosened hcontracts

/-- Where the relaxed policy refuses diagnostics, the strict one refuses them with the warnings among
them. -/
theorem tightened {message : Json} {diagnostics : List Json}
    (h : Decides .relaxed name output (.error (.rejected message diagnostics))) :
    ∃ message' diagnostics', Decides .strict name output (.error (.rejected message' diagnostics')) ∧
      diagnostics = diagnostics'.filter Diagnostic.saysError ∧
      ∀ first ∈ diagnostics'.head?, Diagnostic.saysError first = true → message = message' := by
  obtain ⟨members, first, rest, rfl, rfl, hrefuses, rfl⟩ := rejected_iff.1 h
  obtain ⟨first', rest', hstrict, hfilter⟩ := hrefuses.tightened
  refine ⟨_, _, .rejected members first' rest' hstrict, hfilter, ?_⟩
  -- a first diagnostic that is an error is the first of those that are kept
  intro d hd hsays
  obtain rfl := Option.some.inj hd
  rw [List.filter_cons, if_pos hsays] at hfilter
  rw [Json.object.inj (List.cons.inj hfilter).1]

end Decides

end Policy

namespace Service

/-- **What becomes of an output that was read.** One that is no object stops the judgement. An object is
rejected just if the policy refuses its diagnostics, with these and the wording of the first; artifacts
are returned just if the diagnostics pass and the contracts are an object, and they are what stands there
under the source's name. All other objects stop the judgement too, with the kind of the value that has
no items or no members. -/
theorem decides_output (service : Service) {compiler : Compiler} {source output : Text} {v : Json}
    (hsource : source ≠ [])
    (houtput : (service.submit compiler (service.document (.text source))).result = .ok output)
    (hvalue : Json.parseText output = .ok v) :
    let result := (service.compile compiler (some source)).result
    (¬v.IsObject → result = .error (.noMembers v.kind)) ∧
    (∀ message diagnostics, result = .error (.rejected message diagnostics) ↔
      ∃ members first rest, v = .object members ∧ diagnostics = .object first :: rest ∧
        service.policy.Refuses (Json.diagnostics members) diagnostics ∧
        message = Diagnostic.wordingOf first) ∧
    (∀ artifacts, result = .ok artifacts ↔
      ∃ members contracts, v = .object members ∧ Json.contracts members = .object contracts ∧
        service.policy.Passes (Json.diagnostics members) ∧
        artifacts = (Json.lookup service.sourceName contracts).getD (.object [])) ∧
    (∀ kind, result = .error (.noItems kind) ↔
      ∃ members, v = .object members ∧ ¬(Json.diagnostics members).IsListable ∧
        kind = (Json.diagnostics members).kind) ∧
    (∀ kind, result = .error (.noMembers kind) ↔
      (¬v.IsObject ∧ kind = v.kind) ∨ ∃ members, v = .object members ∧
        ((∃ items d, (Json.diagnostics members).items = .ok items ∧
          service.policy.StumblesOver items d ∧ kind = d.kind) ∨
        (service.policy.Passes (Json.diagnostics members) ∧ ¬(Json.contracts members).IsObject ∧
          kind = (Json.contracts members).kind))) ∧
    ∀ failure, result = .error failure →
      failure.IsMismatch ∨ ∃ message diagnostics, failure = .rejected message diagnostics := by
  intro result
  have hresult (outcome : Except Failure Json) :
      result = outcome ↔ service.policy.Decides service.sourceName v outcome := by
    simp only [result]
    rw [compile_of_submit service compiler hsource houtput, judge, hvalue]
    exact Policy.verdict_eq_iff
  refine ⟨?_, ?_, ?_, ?_, ?_, ?_⟩
  · intro h
    exact (hresult _).2 (.notObject v h)
  · intro message diagnostics
    exact (hresult _).trans Policy.Decides.rejected_iff
  · intro artifacts
    exact (hresult _).trans Policy.Decides.accepted_iff
  · intro kind
    exact (hresult _).trans Policy.Decides.noItems_iff
  · intro kind
    exact (hresult _).trans Policy.Decides.noMembers_iff
  · intro failure h
    exact ((hresult _).1 h).failure

def diagnostic (severity message : Text) : Json :=
  .object [("severity", .text severity), ("message", .text message)]

/-- An output with a warning in front of an error, and a text in place of contracts. -/
def mixedOutput : Json :=
  .object [("errors", .array [diagnostic "warning" "unused", diagnostic "error" "unknown"]),
    ("contracts", .text "none")]

def mixedCompiler : Compiler := Script.compiler ⟨"/usr/bin/solc", none, mixedOutput.write .ascii, none⟩

/-- The service that the settings make when nothing is set, but for the policy. -/
def plain (policy : Policy) : Service := ⟨none, none, "contract.sol", policy⟩

theorem parseText_mixedOutput : Json.parseText (mixedOutput.write .ascii) = .ok mixedOutput :=
  IsDocument.parseText_write_of_pairFree ⟨rfl, rfl, by decide⟩ rfl

theorem submit_mixedCompiler (policy : Policy) (document : Json) :
    ((plain policy).submit mixedCompiler document).result = .ok (mixedOutput.write .ascii) := rfl

/-- The relaxed policy rejects a source for the error alone; what stands under `contracts` is not looked
at. -/
theorem decides_mixed_output :
    Json.parseText (mixedOutput.write .ascii) = .ok mixedOutput ∧
      ((plain .relaxed).compile mixedCompiler (some (Text.ofString "x"))).result =
        .error (.rejected (.text "unknown") [diagnostic "error" "unknown"]) := by
  have hsource : Text.ofString "x" ≠ [] := by decide
  have hdecided := decides_output (plain .relaxed) hsource (submit_mixedCompiler _ _) parseText_mixedOutput
  refine ⟨parseText_mixedOutput, (hdecided.2.1 _ _).2 ⟨_, _, [], rfl, rfl, ?_, rfl⟩⟩
  refine .relaxed [diagnostic "warning" "unused", diagnostic "error" "unknown"] ?_ (List.cons_ne_nil _ _)
  intro d hd
  rcases List.mem_cons.1 hd with rfl | hd
  · exact ⟨_, rfl⟩
  · obtain rfl := List.mem_singleton.1 hd
    exact ⟨_, rfl⟩

/-! ## Two policies -/

def under (service : Service) (policy : Policy) : Service := { service with policy := policy }

/-- A source that is rejected for what the compiler wrote. -/
structure Rejects (service : Service) (compiler : Compiler) (source : Option Text) (message : Json)
    (diagnostics : List Json) : Prop where
  written : ∃ t output, source = some t ∧
    (service.submit compiler (service.document (.text t))).result = .ok output
  result : (service.compile compiler source).result = .error (.rejected message diagnostics)

/-- Where no output was read the policy has no part in the outcome; where one was, the policy decides. -/
inductive Judgement (service : Service) (compiler : Compiler) (source : Option Text) : Prop
  | unread (outcome : Except Failure Json)
      (result : ∀ policy, ((service.under policy).compile compiler source).result = outcome)
      (unrejected : ∀ policy message diagnostics,
        ¬(service.under policy).Rejects compiler source message diagnostics)
  | read (v : Json)
      (written : ∃ t output, source = some t ∧
        (service.submit compiler (service.document (.text t))).result = .ok output)
      (result : ∀ policy, ((service.under policy).compile compiler source).result =
        policy.verdict service.sourceName v)

theorem judgement (service : Service) (compiler : Compiler) (source : Option Text) :
    service.Judgement compiler source := by
  by_cases hsource : source = none ∨ source = some []
  · refine .unread (.error .missingSource) ?_ ?_
    · intro policy
      rcases hsource with rfl | rfl <;> rfl
    · intro policy message diagnostics h
      have hresult := h.result
      rcases hsource with rfl | rfl <;> cases hresult
  obtain ⟨t, rfl⟩ := Option.ne_none_iff_exists'.1 fun h => hsource (.inl h)
  have ht : t ≠ [] := fun h => hsource (.inr (congrArg some h))
  -- the policy plays no part before the output is judged
  have hcompile (policy : Policy) : (service.under policy).compile compiler (some t) =
      (service.submit compiler (service.document (.text t))).andThen fun output =>
        Run.ofExcept ((service.under policy).judge output) :=
    compile_eq (service.under policy) compiler ht
  cases hwritten : (service.submit compiler (service.document (.text t))).result with
  | error failure =>
    refine .unread (.error failure) ?_ ?_
    · intro policy
      rw [hcompile, Run.andThen_error hwritten]
    · intro policy message diagnostics h
      obtain ⟨_, output, hsome, houtput⟩ := h.written
      obtain rfl := Option.some.inj hsome
      cases hwritten.symm.trans houtput
  | ok output =>
    have hjudge (policy : Policy) :
        ((service.under policy).compile compiler (some t)).result = (service.under policy).judge output :=
      compile_of_submit (service.under policy) compiler ht hwritten
    cases hvalue : Json.parseText output with
    | error e =>
      have hresult (policy : Policy) :
          ((service.under policy).compile compiler (some t)).result = .error (.unreadable e) := by
        rw [hjudge, judge, hvalue]
        rfl
      refine .unread _ hresult ?_
      intro policy message diagnostics h
      cases (hresult policy).symm.trans h.result
    | ok v =>
      refine .read v ⟨t, output, rfl, hwritten⟩ ?_
      intro policy
      rw [hjudge, judge, hvalue]
      rfl

theorem calls_under (service : Service) (policy : Policy) (compiler : Compiler) (source : Option Text) :
    ((service.under policy).compile compiler source).calls = (service.compile compiler source).calls := by
  match source with
  | none => rfl
  | some [] => rfl
  | some (c :: t) =>
    rw [calls_compile _ _ (List.cons_ne_nil c t), calls_compile _ _ (List.cons_ne_nil c t)]
    rfl

/-- **A service that is relaxed answers as before except where a source was rejected.** It asks the
compiler the same, and rejects only sources that were rejected before, now for the errors among the
diagnostics. -/
theorem relaxing_spares (service : Service) (compiler : Compiler) (source : Option Text) :
    let strict := service.under .strict
    let relaxed := service.under .relaxed
    (relaxed.compile compiler source).calls = (strict.compile compiler source).calls ∧
    ((∀ message diagnostics, ¬strict.Rejects compiler source message diagnostics) →
      (relaxed.compile compiler source).result = (strict.compile compiler source).result) ∧
    (∀ message diagnostics, relaxed.Rejects compiler source message diagnostics →
      ∃ message' diagnostics', strict.Rejects compiler source message' diagnostics' ∧
        diagnostics = diagnostics'.filter Diagnostic.saysError ∧
        ∀ first ∈ diagnostics'.head?, Diagnostic.saysError first = true → message = message') ∧
    ∀ artifacts, (strict.compile compiler source).result = .ok artifacts →
      (relaxed.compile compiler source).result = .ok artifacts := by
  intro strict relaxed
  have hsame : (∀ message diagnostics, ¬strict.Rejects compiler source message diagnostics) →
      (relaxed.compile compiler source).result = (strict.compile compiler source).result := by
    intro hnot
    cases service.judgement compiler source with
    | unread outcome hresult => exact (hresult _).trans (hresult _).symm
    | read v hwritten hresult =>
      have hstrict : (strict.compile compiler source).result = Policy.strict.verdict service.sourceName v :=
        hresult .strict
      rw [hstrict, hresult, Policy.verdict_eq_iff]
      apply (Policy.verdict_eq_iff.1 rfl).loosened
      intro message diagnostics hrejected
      exact hnot message diagnostics ⟨hwritten, hstrict.trans hrejected⟩
  refine ⟨?_, hsame, ?_, ?_⟩
  · exact (calls_under service _ compiler source).trans (calls_under service _ compiler source).symm
  · intro message diagnostics h
    cases service.judgement compiler source with
    | unread outcome hresult hunrejected => exact absurd h (hunrejected _ _ _)
    | read v hwritten hresult =>
      have hdecided := Policy.verdict_eq_iff.1 ((hresult .relaxed).symm.trans h.result)
      obtain ⟨message', diagnostics', hstrict, hfilter, hmessage⟩ := hdecided.tightened
      have hverdict := (hresult .strict).trans (Policy.verdict_of_decides hstrict)
      exact ⟨message', diagnostics', ⟨hwritten, hverdict⟩, hfilter, hmessage⟩
  · intro artifacts h
    rw [hsame, h]
    intro message diagnostics hrejects
    cases h.symm.trans hrejects.result

/-- What the relaxed policy rejects a source for is the part of what the strict one rejects it for that
says that it is an error. -/
theorem relaxing_spares_warning :
    ((plain .strict).under .relaxed).Rejects mixedCompiler (some (Text.ofString "x")) (.text "unknown")
        [diagnostic "error" "unknown"] ∧
      ∃ message diagnostics,
        ((plain .strict).under .strict).Rejects mixedCompiler (some (Text.ofString "x")) message
          diagnostics ∧
        [diagnostic "error" "unknown"] = diagnostics.filter Diagnostic.saysError := by
  have hrejects : ((plain .strict).under .relaxed).Rejects mixedCompiler (some (Text.ofString "x"))
      (.text "unknown") [diagnostic "error" "unknown"] := by
    have hsource : Text.ofString "x" ≠ [] := by decide
    refine ⟨⟨_, _, rfl, submit_mixedCompiler .relaxed _⟩, ?_⟩
    show ((plain .relaxed).compile mixedCompiler (some (Text.ofString "x"))).result = _
    rw [compile_of_submit _ _ hsource (submit_mixedCompiler _ _), judge, parseText_mixedOutput]
    rfl
  obtain ⟨-, -, hrejected, -⟩ :=
    relaxing_spares (plain .strict) mixedCompiler (some (Text.ofString "x"))
  obtain ⟨message, diagnostics, hstrict, hfilter, -⟩ := hrejected _ _ hrejects
  exact ⟨hrejects, message, diagnostics, hstrict, hfilter⟩

end Service

end SolidityGateway
