import SolidityGateway.Http.Gateway
import SolidityGateway.Startup
import Mathlib.Tactic.Common

/-!
What a service and a gateway do, as equations. A source that is not empty is handed to the compiler and
the output is judged; a compilation asks for the compiler first, if no path is configured. The settings
of a gateway that starts are those its environment gives.
-/

namespace SolidityGateway

/-- A gateway with these settings starts in an environment, and has room for a compilation. -/
structure Startup.Starts (environment : List (Text × Text)) (settings : Settings) : Prop where
  loads : Settings.load environment [] = .ok settings
  room : ∀ n, settings.limit = some n → 0 < n

theorem Settings.sourceName_of_load {environment : List (Text × Text)} {settings : Settings} {name : Text}
    (h : load environment [] = .ok settings) (hname : variableFor environment "source_name" = some name) :
    settings.service.sourceName = name := by
  have hfield : field (given environment []) "source_name" ("contract.sol" : Text) Scalar.text =
      .ok name := by
    simp only [field, given, argumentFor, List.find?_nil, Option.map_none, hname, Option.map_some]
    rfl
  simp only [load, loadBy, List.any_nil, loadNamed, hfield] at h
  rw [if_neg (by decide)] at h
  split at h
  · next heq _ _ _ _ _ =>
    obtain rfl := Except.ok.inj heq
    obtain rfl := Except.ok.inj h
    rfl
  · cases h

namespace Run

variable {α β : Type}

theorem andThen_ok {r : Run α} {next : α → Run β} {b : β} (h : (r.andThen next).result = .ok b) :
    ∃ a, r.result = .ok a ∧ (next a).result = .ok b ∧
      (r.andThen next).calls = r.calls ++ (next a).calls := by
  cases hr : r.result with
  | error failure => rw [andThen_error hr] at h; cases h
  | ok a => exact ⟨a, rfl, by rwa [result_andThen_ok hr] at h, calls_andThen_ok hr next⟩

/-- A run that fails after another did not: either of the two failed. -/
theorem andThen_failed {r : Run α} {next : α → Run β} {failure : Failure}
    (h : (r.andThen next).result = .error failure) :
    r.result = .error failure ∨ ∃ a, r.result = .ok a ∧ (next a).result = .error failure := by
  cases hr : r.result with
  | error other =>
    rw [andThen_error hr] at h
    exact .inl (congrArg _ (Except.error.inj h))
  | ok a => exact .inr ⟨a, rfl, by rwa [result_andThen_ok hr] at h⟩

theorem ofExcept_bind (x : Except Failure α) (next : α → Except Failure β) :
    ofExcept (x >>= next) = (ofExcept x).andThen fun a => ofExcept (next a) := by
  cases x <;> rfl

theorem calls_andThen_ofExcept (r : Run α) (next : α → Except Failure β) :
    (r.andThen fun a => ofExcept (next a)).calls = r.calls := by
  cases hr : r.result with
  | error failure => rw [andThen_error hr]
  | ok a => rw [calls_andThen_ok hr, ofExcept, List.append_nil]

end Run

namespace Service

variable (service : Service) (compiler : Compiler)

theorem compile_eq {source : Text} (h : source ≠ []) :
    service.compile compiler (some source) =
      (service.submit compiler (service.document (.text source))).andThen fun output =>
        Run.ofExcept (service.judge output) := by
  cases source with
  | nil => exact absurd rfl h
  | cons c rest => rfl

theorem compile_of_submit {source output : Text} (h : source ≠ [])
    (houtput : (service.submit compiler (service.document (.text source))).result = .ok output) :
    (service.compile compiler (some source)).result = service.judge output := by
  rw [compile_eq service compiler h, Run.result_andThen_ok houtput]
  rfl

theorem submit_eq (document : Json) : service.submit compiler document =
    (service.executable compiler).andThen fun binary =>
      compiler.compile binary (document.write .ascii) := rfl

theorem version_eq : service.version compiler =
    (service.executable compiler).andThen fun binary =>
      (compiler.banner binary).andThen fun banner => Run.ofExcept (versionIn banner) := rfl

theorem calls_compile {source : Text} (h : source ≠ []) :
    (service.compile compiler (some source)).calls =
      (service.submit compiler (service.document (.text source))).calls := by
  rw [compile_eq service compiler h, Run.calls_andThen_ofExcept]

end Service

/-- An output without diagnostics is judged by what stands under the source's name. -/
theorem Policy.verdict_of_clean (policy : Policy) (name : Text) {members contracts : List (Text × Json)}
    (herrors : ∀ v, Json.lookup "errors" members = some v → v.isTruthy = false)
    (hcontracts : Json.lookup "contracts" members = some (.object contracts)) :
    policy.verdict name (.object members) =
      .ok ((Json.lookup name contracts).getD (.object [])) := by
  have hdiagnostics : Json.orElse (Json.lookup "errors" members) (.array []) = .array [] := by
    cases h : Json.lookup "errors" members with
    | none => rfl
    | some v => simp [Json.orElse, herrors v h]
  have hmap : Json.orElse (some (.object contracts)) (.object []) = .object contracts := by
    cases contracts <;> rfl
  simp only [verdict, Json.member?, hdiagnostics, hcontracts, bind, Except.bind]
  cases policy <;> simp only [failing, Json.items, bind, Except.bind, Diagnostic.errors, hmap] <;> rfl

end SolidityGateway
