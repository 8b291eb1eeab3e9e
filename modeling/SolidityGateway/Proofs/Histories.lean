import SolidityGateway.Proofs.Calls
import SolidityGateway.Service.Session
import Mathlib.Data.List.OfFn
import Mathlib.Logic.Equiv.Defs

/-!
What is left of the past. A gateway and a session answer one input after the other, and all that an
input can change is the compiler in force (`Application.step_snd`, `Step.next`). So answers depend on
what came before only through that compiler: `Forgets` says this of two histories and of the inputs in
another order, and `leaves_no_trace` that it holds of both, whatever the inputs are and however they
end.
-/

namespace SolidityGateway

/-- Inputs are answered one after the other, and the answers depend on what came before only through a
state that `next` carries on. -/
structure Forgets {σ α β : Type} (next : σ → α → σ) (answers : σ → List α → List β) : Prop where
  /-- Every input has one answer. -/
  length : ∀ s inputs, (answers s inputs).length = inputs.length
  /-- After two histories that end in the same state the answers are the same. -/
  histories : ∀ s s' history history', history.foldl next s = history'.foldl next s' → ∀ rest,
    (answers s (history ++ rest)).drop history.length =
      (answers s' (history' ++ rest)).drop history'.length
  /-- Where inputs keep the state, their answers come in the order of the inputs. -/
  permutes : ∀ s history (n : Nat) (inputs : Fin n → α), (∀ i s, next s (inputs i) = s) →
    ∀ (order : Equiv.Perm (Fin n)) (i : Fin n),
      (answers s (history ++ List.ofFn fun j => inputs (order j)))[history.length + i]? =
        (answers s (history ++ List.ofFn inputs))[history.length + order i]?

namespace Forgets

variable {σ α β : Type} {next : σ → α → σ} {one : σ → α → β} {answers : σ → List α → List β}

section
variable (hnil : ∀ s, answers s [] = [])
  (hcons : ∀ s input rest, answers s (input :: rest) = one s input :: answers (next s input) rest)
include hnil hcons

theorem answers_append (s : σ) (history rest : List α) :
    answers s (history ++ rest) = answers s history ++ answers (history.foldl next s) rest := by
  induction history generalizing s with
  | nil => rw [hnil]; rfl
  | cons input history ih => rw [List.cons_append, hcons, hcons, ih]; rfl

theorem length_answers (s : σ) (inputs : List α) : (answers s inputs).length = inputs.length := by
  induction inputs generalizing s with
  | nil => rw [hnil]; rfl
  | cons input inputs ih => rw [hcons, List.length_cons, ih, List.length_cons]

theorem answers_of_steady {s : σ} {inputs : List α} (h : ∀ input ∈ inputs, next s input = s) :
    answers s inputs = inputs.map (one s) := by
  induction inputs with
  | nil => exact hnil s
  | cons input inputs ih =>
    obtain ⟨hinput, hinputs⟩ := List.forall_mem_cons.1 h
    rw [hcons, hinput, ih hinputs, List.map_cons]

end

/-- Answers that are given step by step forget what came before the state. -/
theorem of_step (one : σ → α → β) (hnil : ∀ s, answers s [] = [])
    (hcons : ∀ s input rest, answers s (input :: rest) = one s input :: answers (next s input) rest) :
    Forgets next answers where
  length := length_answers hnil hcons
  histories := by
    intro s s' history history' hstate rest
    rw [answers_append hnil hcons, answers_append hnil hcons, hstate,
      List.drop_left' (length_answers hnil hcons s history),
      List.drop_left' (length_answers hnil hcons s' history')]
  permutes := by
    intro s history n inputs hkeep order i
    have hsteady (f : Fin n → Fin n) : ∀ input ∈ List.ofFn (fun j => inputs (f j)),
        next (history.foldl next s) input = history.foldl next s := by
      intro input hinput
      obtain ⟨j, rfl⟩ := (List.mem_ofFn' _ _).1 hinput
      exact hkeep (f j) _
    have hanswer (f : Fin n → Fin n) (j : Fin n) :
        (answers s (history ++ List.ofFn fun j => inputs (f j)))[history.length + j]? =
          some (one (history.foldl next s) (inputs (f j))) := by
      rw [answers_append hnil hcons, answers_of_steady hnil hcons (hsteady f),
        List.getElem?_append_right (by rw [length_answers hnil hcons]; exact Nat.le_add_right _ _),
        length_answers hnil hcons, Nat.add_sub_cancel_left]
      simp
    rw [hanswer order i]
    exact (hanswer id (order i)).symm

end Forgets

/-! ## Gateways -/

def Gateway.Arrival.next (compiler : Compiler) (arrival : Arrival) : Compiler :=
  arrival.compiler.getD compiler

namespace Application

theorem forgets (app : Application) :
    Forgets Gateway.Arrival.next fun compiler arrivals => (app.under compiler).serve arrivals := by
  apply Forgets.of_step fun compiler arrival => ((app.under compiler).step arrival).1
  · intro compiler
    rfl
  · intro compiler arrival rest
    simp only [serve, step_snd]
    rfl

end Application

theorem Service.forgets (service : Service) : Forgets Step.next service.session :=
  .of_step (Step.run service) (fun _ => rfl) (fun _ _ _ => rfl)

/-- **Nothing that was asked before leaves a trace.** A gateway that started answers after two histories
alike if these leave the same compiler in force, and requests in another order are answered in that
order; so does a session with a service. Unless the settings leave no room for a compilation, every
request of the gateway is answered. -/
theorem leaves_no_trace :
    (∀ settings compiler app, Application.start settings compiler = .ok app →
      Forgets Gateway.Arrival.next (fun inForce arrivals => (app.under inForce).serve arrivals) ∧
      ((∀ n, settings.limit = some n → 0 < n) → ∀ arrivals,
        app.serve arrivals = (Gateway.serve settings.service compiler arrivals).map some)) ∧
    ∀ service : Service, Forgets Step.next service.session := by
  refine ⟨?_, Service.forgets⟩
  intro settings compiler app hstart
  refine ⟨app.forgets, ?_⟩
  intro hroom arrivals
  have hopen : settings.limit ≠ some 0 := fun hclosed => absurd (hroom 0 hclosed) (lt_irrefl 0)
  have hserve := Application.serve_eq ((Application.hasRoom_iff hstart).2 hopen) arrivals
  obtain ⟨limit, -, rfl⟩ := Application.start_ok hstart
  exact hserve

/-- The settings of a gateway with room for one compilation. -/
def narrowSettings : Settings := ⟨"0.0.0.0", 4000, ⟨none, none, "contract.sol", .strict⟩, some 1⟩

/-- A gateway with these settings, and a compiler that writes no JSON. -/
def narrowApplication : Application :=
  ⟨narrowSettings, narrowSettings.service, some ⟨1, 0⟩,
    Script.compiler ⟨"/usr/bin/solc", none, "Segmentation fault", none⟩⟩

/-- A compilation that failed took the only place, and the next is answered as if it had not been. -/
theorem leaves_no_trace_of_failure :
    let arrival : Gateway.Arrival := ⟨none, Request.submitting (Text.ofString "x")⟩
    Settings.load [("SOLC_SERVER_MAX_CONCURRENT_COMPILES", "1")] [] = .ok narrowSettings ∧
      Application.start narrowSettings narrowApplication.compiler = .ok narrowApplication ∧
      (narrowApplication.serve [arrival, arrival]).drop 1 = narrowApplication.serve [arrival] ∧
      none ∉ narrowApplication.serve [arrival, arrival] := by
  intro arrival
  have hstart : Application.start narrowSettings narrowApplication.compiler = .ok narrowApplication := rfl
  obtain ⟨hforgets, hserve⟩ := leaves_no_trace.1 _ _ _ hstart
  have hroom : ∀ n, narrowSettings.limit = some n → 0 < n := by
    intro n hn
    obtain rfl := Option.some.inj hn
    decide
  refine ⟨rfl, hstart, hforgets.histories _ _ [arrival] [] rfl [arrival], ?_⟩
  rw [hserve hroom]
  simp

end SolidityGateway
