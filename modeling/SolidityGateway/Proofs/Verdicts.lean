import SolidityGateway.Service.Verdict
import SolidityGateway.Proofs.Values

/-!
What a verdict rests on. Each step of a verdict looks into the output, and `Policy.verdict_ok` and
`Policy.verdict_error` turn a verdict back into what stood there: the artifacts are a member of an
object under `contracts`, a rejection is worded by an object in the list under `errors`, and any other
failure met a value of the wrong kind.
-/

namespace SolidityGateway

theorem bind_error {ε α β : Type} {x : Except ε α} {next : α → Except ε β} {e : ε}
    (h : (x >>= next) = .error e) : x = .error e ∨ ∃ a, x = .ok a ∧ next a = .error e := by
  cases x with
  | error other => exact .inl (congrArg _ (Except.error.inj h))
  | ok a => exact .inr ⟨a, rfl, h⟩

theorem bind_ok {ε α β : Type} {x : Except ε α} {next : α → Except ε β} {b : β}
    (h : (x >>= next) = .ok b) : ∃ a, x = .ok a ∧ next a = .ok b := by
  cases x with
  | error other => cases h
  | ok a => exact ⟨a, rfl, h⟩

/-- A failure that met a value of the wrong kind. -/
inductive Failure.IsMismatch : Failure → Prop
  | members (kind : String) : IsMismatch (.noMembers kind)
  | items (kind : String) : IsMismatch (.noItems kind)

/-! ## Looks into a value -/

namespace Json

variable {v : Json} {name : Text} {f : Failure}

theorem member?_ok {member : Option Json} (h : v.member? name = .ok member) :
    ∃ members, v = object members ∧ lookup name members = member := by
  cases v with
  | object members => exact ⟨members, rfl, Except.ok.inj h⟩
  | _ => cases h

theorem member?_error (h : v.member? name = .error f) : f.IsMismatch := by
  cases v with
  | object members => cases h
  | _ => obtain rfl := Except.error.inj h; exact .members _

theorem items_error (h : v.items = .error f) : f.IsMismatch := by
  cases v with
  | array items => cases h
  | object members => cases h
  | text t => cases h
  | _ => obtain rfl := Except.error.inj h; exact .items _

theorem mem_items_object {items : List Json} {members : List (Text × Json)} (h : v.items = .ok items)
    (hm : object members ∈ items) : v = array items := by
  cases v with
  | array others => rw [Except.ok.inj h]
  | object others =>
    -- the items of an object are names
    obtain rfl := Except.ok.inj h
    obtain ⟨m, -, hm⟩ := List.mem_map.1 hm
    cases hm
  | text t =>
    obtain rfl := Except.ok.inj h
    obtain ⟨c, -, hm⟩ := List.mem_map.1 hm
    cases hm
  | _ => cases h

/-- What both values have, the one that is taken has. -/
theorem orElse_of {P : Json → Prop} {value : Option Json} {other : Json} (hvalue : ∀ w ∈ value, P w)
    (hother : P other) : P (orElse value other) := by
  cases value with
  | none => exact hother
  | some w =>
    simp only [orElse]
    split
    · exact hvalue w rfl
    · exact hother

theorem orElse_eq_some {value : Option Json} {other : Json} (h : orElse value other ≠ other) :
    value = some (orElse value other) := by
  cases value with
  | none => exact absurd rfl h
  | some v =>
    simp only [orElse] at h ⊢
    split
    · rfl
    · next hv => exact absurd (if_neg hv) h

end Json

/-! ## Diagnostics -/

namespace Diagnostic

variable {diagnostic : Json} {f : Failure}

theorem isError_error (h : isError diagnostic = .error f) : f.IsMismatch := by
  rcases bind_error h with h | ⟨severity, -, h⟩
  · exact Json.member?_error h
  · split at h <;> cases h

theorem errors_error : ∀ {diagnostics : List Json}, errors diagnostics = .error f → f.IsMismatch
  | [], h => by cases h
  | diagnostic :: rest, h => by
    rcases bind_error h with h | ⟨keep, -, h⟩
    · exact isError_error h
    · rcases bind_error h with h | ⟨others, -, h⟩
      · exact errors_error h
      · cases h

theorem mem_of_errors {kept : List Json} : ∀ {diagnostics : List Json},
    errors diagnostics = .ok kept → ∀ d ∈ kept, d ∈ diagnostics
  | [], h => by
    cases h
    intro _ hd
    exact hd
  | diagnostic :: rest, h => by
    obtain ⟨keep, -, h⟩ := bind_ok h
    obtain ⟨others, hothers, h⟩ := bind_ok h
    obtain rfl := Except.ok.inj h
    intro d hd
    split at hd
    · rcases List.mem_cons.1 hd with rfl | hd
      · exact List.mem_cons_self
      · exact List.mem_cons_of_mem _ (mem_of_errors hothers d hd)
    · exact List.mem_cons_of_mem _ (mem_of_errors hothers d hd)

theorem wording_error (h : wording diagnostic = .error f) : f.IsMismatch := by
  rcases bind_error h with h | ⟨formatted, -, h⟩
  · exact Json.member?_error h
  · rcases bind_error h with h | ⟨bare, -, h⟩
    · exact Json.member?_error h
    · cases h

theorem wording_ok {message : Json} (h : wording diagnostic = .ok message) :
    ∃ members, diagnostic = .object members ∧
      message = Json.orElse (Json.lookup "formattedMessage" members)
        (Json.orElse (Json.lookup "message" members) (.text [])) := by
  obtain ⟨formatted, hformatted, h⟩ := bind_ok h
  obtain ⟨bare, hbare, h⟩ := bind_ok h
  obtain ⟨members, rfl, rfl⟩ := Json.member?_ok hformatted
  obtain rfl := Except.ok.inj hbare
  exact ⟨members, rfl, (Except.ok.inj h).symm⟩

end Diagnostic

/-! ## Verdicts -/

namespace Policy

variable {policy : Policy} {diagnostics output : Json} {failing : List Json} {name : Text} {f : Failure}

theorem failing_error (h : policy.failing diagnostics = .error f) : f.IsMismatch := by
  rcases bind_error h with h | ⟨items, -, h⟩
  · exact Json.items_error h
  · cases policy with
    | strict => cases h
    | relaxed => exact Diagnostic.errors_error h

theorem mem_items_of_failing (h : policy.failing diagnostics = .ok failing) :
    ∃ items, diagnostics.items = .ok items ∧ ∀ d ∈ failing, d ∈ items := by
  obtain ⟨items, hitems, h⟩ := bind_ok h
  refine ⟨items, hitems, ?_⟩
  cases policy with
  | strict =>
    obtain rfl := Except.ok.inj h
    exact fun _ hd => hd
  | relaxed => exact Diagnostic.mem_of_errors h

/-- Artifacts were found: the output is an object, what it holds under `contracts` or else the empty
object is one, and they stand in that under the name or are empty. -/
theorem verdict_ok {artifacts : Json} (h : policy.verdict name output = .ok artifacts) :
    ∃ members contracts, output = .object members ∧
      Json.orElse (Json.lookup "contracts" members) (.object []) = .object contracts ∧
      artifacts = (Json.lookup name contracts).getD (.object []) := by
  obtain ⟨diagnostics, hdiagnostics, h⟩ := bind_ok h
  obtain ⟨members, rfl, -⟩ := Json.member?_ok hdiagnostics
  obtain ⟨failing, -, h⟩ := bind_ok h
  cases failing with
  | nil =>
    obtain ⟨found, hfound, h⟩ := bind_ok h
    obtain rfl := Except.ok.inj hfound
    obtain ⟨entry, hentry, h⟩ := bind_ok h
    obtain ⟨contracts, hcontracts, rfl⟩ := Json.member?_ok hentry
    exact ⟨members, contracts, rfl, hcontracts, (Except.ok.inj h).symm⟩
  | cons first rest =>
    obtain ⟨message, -, h⟩ := bind_ok h
    cases h

/-- A verdict that fails is a rejection, or met a value of the wrong kind. A rejection is worded by an
object in the list that the output holds under `errors`. -/
theorem verdict_error (h : policy.verdict name output = .error f) :
    f.IsMismatch ∨ ∃ members items first diagnostics, output = .object members ∧
      Json.lookup "errors" members = some (.array items) ∧ .object first ∈ items ∧
      f = .rejected (Json.orElse (Json.lookup "formattedMessage" first)
        (Json.orElse (Json.lookup "message" first) (.text []))) diagnostics := by
  rcases bind_error h with h | ⟨diagnostics, hdiagnostics, h⟩
  · exact .inl (Json.member?_error h)
  obtain ⟨members, rfl, rfl⟩ := Json.member?_ok hdiagnostics
  rcases bind_error h with h | ⟨failing, hfailing, h⟩
  · exact .inl (failing_error h)
  cases failing with
  | nil =>
    rcases bind_error h with h | ⟨contracts, -, h⟩
    · exact .inl (Json.member?_error h)
    · rcases bind_error h with h | ⟨artifacts, -, h⟩
      · exact .inl (Json.member?_error h)
      · cases h
  | cons first rest =>
    rcases bind_error h with h | ⟨message, hmessage, h⟩
    · exact .inl (Diagnostic.wording_error h)
    obtain rfl := Except.error.inj h
    obtain ⟨worded, rfl, rfl⟩ := Diagnostic.wording_ok hmessage
    obtain ⟨items, hitems, hmem⟩ := mem_items_of_failing hfailing
    have hobject : Json.object worded ∈ items := hmem _ List.mem_cons_self
    have hlist := Json.mem_items_object hitems hobject
    -- without a list under `errors` there would be no items at all
    have hne : Json.orElse (Json.lookup "errors" members) (.array []) ≠ .array [] := by
      rw [hlist]
      intro heq
      rw [Json.array.inj heq] at hobject
      cases hobject
    refine .inr ⟨members, items, worded, _, rfl, ?_, hobject, rfl⟩
    rw [Json.orElse_eq_some hne, hlist]

end Policy

end SolidityGateway
