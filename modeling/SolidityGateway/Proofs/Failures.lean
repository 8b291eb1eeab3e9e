import SolidityGateway.Compiler.Script
import SolidityGateway.Compiler.Installation
import SolidityGateway.Proofs.Readings
import SolidityGateway.Proofs.Runs
import SolidityGateway.Proofs.Verdicts

/-!
Which failures there are. A compilation fails for want of a source, with what the compiler raises
(`Compiler.Raises`) or with a verdict on its output (`Service.compile_error`). A compiler that answers
as it is told, or one that is run as a process, fails with a text (`Compiler.Canned.failed`), and the
wording of a rejection is a value inside the output that was read. So the wording of every failed run
is a value that was read, nested less deep than the reader goes (`Failure.Reportable`).
-/

namespace SolidityGateway

/-! ## Compilers -/

/-- A failure that a compiler answers some question with. -/
inductive Compiler.Raises (compiler : Compiler) (failure : Failure) : Prop
  | locate (release : Option Text) (h : (compiler.locate release).result = .error failure)
  | compile (binary input : Text) (h : (compiler.compile binary input).result = .error failure)
  | banner (binary : Text) (h : (compiler.banner binary).result = .error failure)

namespace Failure

/-- What a compiler can fail with: not the end of a sequence, and a rejection only with a text. -/
structure Raisable (failure : Failure) : Prop where
  notExhausted : ∀ t, failure ≠ .exhausted t
  worded : failure.message = .text failure.text

/-- Whether a failure is one of locating a compiler or of running it as a process. -/
def isOfProcess : Failure → Bool
  | noCompiler | notInstalled _ | invalidRelease _ | oversizedRelease _ | oversizedName _
  | unsupportedRelease | runFailed _ | unknownOption .. | unknownValue .. | unnamedOption
  | unclearValue _ => true
  | _ => false

theorem raisable_of_isOfProcess {failure : Failure} (h : failure.isOfProcess = true) :
    failure.Raisable where
  notExhausted := by
    rintro t rfl
    cases h
  worded := by
    cases failure with
    | rejected => cases h
    | _ => rfl

theorem isForClient_of_isOfProcess {failure : Failure} (h : failure.isOfProcess = true) :
    failure.isForClient = false := by
  cases failure with
  | missingSource | rejected | refused => cases h
  | _ => rfl

end Failure

/-- A compiler that answers as it is told to, or one that is run as a process. -/
inductive Compiler.Canned : Compiler → Prop
  | script (script : Script) (locate : ∀ f, script.locateFailure = some f → f.Raisable)
      (run : ∀ f, script.runFailure = some f → f.Raisable) : Canned script.compiler
  | installation (installation : Installation) : Canned installation.compiler

theorem Script.answer_failed {failure : Option Failure} {t : Text} {f : Failure}
    (h : answer failure t = .error f) : failure = some f := by
  cases failure with
  | none => cases h
  | some other => exact congrArg some (Except.error.inj h)

namespace Installation

variable (i : Installation)

theorem locateStandard_failed {f : Failure} (h : i.locateStandard = .error f) :
    f.isOfProcess = true := by
  unfold locateStandard at h
  split at h
  · cases h
  · obtain rfl := Except.error.inj h
    rfl

theorem readRelease_failed {t : Text} {f : Failure} (h : readRelease t = .error f) :
    f.isOfProcess = true := by
  unfold readRelease at h
  split at h
  · cases h
  · obtain rfl := Except.error.inj h
    rfl
  · obtain rfl := Except.error.inj h
    rfl

theorem locateRelease_failed {release : Release} {f : Failure} (h : i.locateRelease release = .error f) :
    f.isOfProcess = true := by
  unfold locateRelease at h
  dsimp only at h
  split at h
  · obtain rfl := Except.error.inj h
    rfl
  · split at h
    · cases h
    · obtain rfl := Except.error.inj h
      rfl

theorem locate_failed {release : Option Text} {f : Failure} (h : i.locate release = .error f) :
    f.isOfProcess = true := by
  unfold locate at h
  split at h
  · exact locateStandard_failed i h
  · exact locateStandard_failed i h
  · rcases bind_error h with h | ⟨number, -, h⟩
    · exact readRelease_failed h
    · split at h
      · obtain rfl := Except.error.inj h
        rfl
      · exact locateRelease_failed i h

theorem ownRelease_failed {f : Failure} (h : i.ownRelease = .error f) : f.isOfProcess = true := by
  unfold ownRelease at h
  split at h
  · obtain rfl := Except.error.inj h
    rfl
  · exact readRelease_failed h

theorem failureOf_isOfProcess (release : Release) (command : List Text) :
    (i.failureOf release command).isOfProcess = true := by
  unfold failureOf
  dsimp only
  split
  · split <;> rfl
  · split
    · split <;> rfl
    · rfl

theorem run_failed {binary : Text} {arguments : List Text} {input : Option Text} {f : Failure}
    (h : (i.run binary arguments input).result = .error f) : f.isOfProcess = true := by
  unfold run at h
  simp only [Run.bind_eq] at h
  rcases Run.andThen_failed h with h | ⟨path, -, h⟩
  · simp only [Run.ofExcept] at h
    split at h
    · exact locateStandard_failed i h
    · cases h
  rcases Run.andThen_failed h with h | ⟨_, -, h⟩
  · cases h
  rcases Run.andThen_failed h with h | ⟨release, -, h⟩
  · exact ownRelease_failed i h
  rcases Run.andThen_failed h with h | ⟨_, -, h⟩
  · cases h
  rcases Run.andThen_failed h with h | ⟨_, -, h⟩
  · cases h
  split at h
  · cases h
  · obtain rfl := Except.error.inj h
    exact failureOf_isOfProcess i _ _

theorem isOfProcess_of_raises {f : Failure} (h : i.compiler.Raises f) : f.isOfProcess = true := by
  cases h with
  | locate release h => exact locate_failed i h
  | compile binary input h => exact run_failed i h
  | banner binary h => exact run_failed i h

end Installation

/-- **What a compiler can fail with**, whatever it is asked. -/
theorem Compiler.Canned.failed {compiler : Compiler} (h : compiler.Canned) {f : Failure}
    (hf : compiler.Raises f) : f.Raisable := by
  cases h with
  | script script locate run =>
    cases hf with
    | locate release hf => exact locate f (Script.answer_failed hf)
    | compile binary input hf => exact run f (Script.answer_failed hf)
    | banner binary hf => exact run f (Script.answer_failed hf)
  | installation i => exact Failure.raisable_of_isOfProcess (i.isOfProcess_of_raises hf)

/-! ## Where an outcome comes from -/

namespace Service

variable {service : Service} {compiler : Compiler} {f : Failure}

theorem executable_error (h : (service.executable compiler).result = .error f) : compiler.Raises f := by
  unfold executable at h
  split at h
  · cases h
  · exact .locate _ h

theorem judge_error {output : Text} (h : service.judge output = .error f) :
    (∃ e, f = .unreadable e) ∨ ∃ value, Json.parseText output = .ok value ∧
      service.policy.verdict service.sourceName value = .error f := by
  rw [judge] at h
  cases hparse : Json.parseText output with
  | error e =>
    rw [hparse] at h
    exact .inl ⟨e, (Except.error.inj h).symm⟩
  | ok value =>
    rw [hparse] at h
    exact .inr ⟨value, rfl, h⟩

theorem judge_ok {output : Text} {artifacts : Json} (h : service.judge output = .ok artifacts) :
    ∃ value, Json.parseText output = .ok value ∧
      service.policy.verdict service.sourceName value = .ok artifacts := by
  rw [judge] at h
  cases hparse : Json.parseText output with
  | error e => rw [hparse] at h; cases h
  | ok value =>
    rw [hparse] at h
    exact ⟨value, rfl, h⟩

theorem compile_ok {source : Option Text} {artifacts : Json}
    (h : (service.compile compiler source).result = .ok artifacts) :
    ∃ t output, source = some t ∧ t ≠ [] ∧
      (service.submit compiler (service.document (.text t))).result = .ok output ∧
      service.judge output = .ok artifacts := by
  match source, h with
  | some (c :: t), h =>
    rw [compile_eq _ _ (List.cons_ne_nil c t)] at h
    obtain ⟨output, houtput, hjudge, -⟩ := Run.andThen_ok h
    exact ⟨_, output, rfl, List.cons_ne_nil c t, houtput, hjudge⟩
  | none, h => cases h
  | some [], h => cases h

theorem compile_error {source : Option Text} (h : (service.compile compiler source).result = .error f) :
    f = .missingSource ∨ compiler.Raises f ∨ ∃ t output, source = some t ∧
      (service.submit compiler (service.document (.text t))).result = .ok output ∧
      service.judge output = .error f := by
  by_cases hs : source = none ∨ source = some []
  · rcases hs with rfl | rfl <;> exact .inl (Except.error.inj h).symm
  · obtain ⟨t, rfl⟩ := Option.ne_none_iff_exists'.1 fun h => hs (.inl h)
    rw [compile_eq _ _ fun h => hs (.inr (congrArg some h))] at h
    rcases Run.andThen_failed h with h | ⟨output, houtput, h⟩
    · refine .inr (.inl ?_)
      rw [submit_eq] at h
      rcases Run.andThen_failed h with h | ⟨binary, -, h⟩
      · exact executable_error h
      · exact .compile _ _ h
    · exact .inr (.inr ⟨t, output, rfl, houtput, h⟩)

theorem version_error (h : (service.version compiler).result = .error f) :
    compiler.Raises f ∨ ∃ banner, f = .noVersion banner := by
  rw [version_eq] at h
  rcases Run.andThen_failed h with h | ⟨binary, -, h⟩
  · exact .inl (executable_error h)
  rcases Run.andThen_failed h with h | ⟨banner, -, h⟩
  · exact .inl (.banner _ h)
  simp only [Run.ofExcept, versionIn] at h
  split at h
  · cases h
  · exact .inr ⟨banner, (Except.error.inj h).symm⟩

end Service

/-! ## How a failure is worded -/

/-- What is known of a failed run: it is not the end of a sequence, and its wording was read. -/
structure Failure.Reportable (failure : Failure) : Prop where
  notExhausted : ∀ t, failure ≠ .exhausted t
  reading : Json.Reading 987 failure.message

theorem Failure.Raisable.reportable {failure : Failure} (h : failure.Raisable) : failure.Reportable :=
  ⟨h.notExhausted, h.worded ▸ Json.Reading.text _⟩

theorem Failure.IsMismatch.reportable {failure : Failure} (h : failure.IsMismatch) :
    failure.Reportable := by
  cases h <;> exact ⟨by simp, Json.Reading.text _⟩

/-- A verdict that fails on an output that was read is worded by a value that was read. -/
theorem Policy.verdict_failed {policy : Policy} {name : Text} {output : Json}
    (hv : Json.Reading (987 + 1 + 1 + 1) output) {f : Failure}
    (h : policy.verdict name output = .error f) : f.Reportable := by
  rcases verdict_error h with h | ⟨members, items, first, diagnostics, rfl, herrors, hfirst, rfl⟩
  · exact h.reportable
  · refine ⟨by simp, ?_⟩
    -- the diagnostics, one of them and its wording: each lies one level deeper in the output
    have hdiagnostic : Json.Reading (987 + 1) (.object first) := (hv.lookup herrors).item hfirst
    exact Json.orElse_of (fun _ hw => hdiagnostic.lookup hw)
      (Json.orElse_of (fun _ hw => hdiagnostic.lookup hw) (Json.Reading.text _))

namespace Service

variable {service : Service} {compiler : Compiler}

theorem judge_failed {output : Text} {f : Failure} (h : service.judge output = .error f) :
    f.Reportable := by
  rcases judge_error h with ⟨e, rfl⟩ | ⟨value, hvalue, h⟩
  · exact ⟨by simp, Json.Reading.text _⟩
  · exact Policy.verdict_failed (Json.reading_parseText hvalue) h

/-- **The wording of every failed compilation was read**, and it is not the end of a sequence. -/
theorem compile_failed (hc : compiler.Canned) {source : Option Text} {f : Failure}
    (h : (service.compile compiler source).result = .error f) : f.Reportable := by
  rcases compile_error h with rfl | h | ⟨_, _, -, -, h⟩
  · exact ⟨by simp, Json.Reading.text _⟩
  · exact (hc.failed h).reportable
  · exact judge_failed h

theorem version_failed (hc : compiler.Canned) {f : Failure}
    (h : (service.version compiler).result = .error f) : f.Raisable := by
  rcases version_error h with h | ⟨banner, rfl⟩
  · exact hc.failed h
  · exact ⟨by simp, rfl⟩

end Service

end SolidityGateway
