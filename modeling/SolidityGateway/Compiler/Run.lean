import SolidityGateway.Compiler.Failure

/-!
Runs that leave a record. A `Call` is one thing that was asked of the compiler's side; a `Run` is the
calls in their order with how it ended. Runs follow one another: the calls of the first come first,
and nothing follows a failure.
-/

namespace SolidityGateway

/-- What was asked of the compiler's side. -/
inductive Call
  /-- The path of the compiler of a release, or of the one there is. -/
  | locate (release : Option Text)
  /-- A compilation: the path of the compiler and its input. -/
  | compile (binary input : Text)
  /-- The banner of the compiler at a path. -/
  | banner (binary : Text)
  /-- A process that is run for its output. -/
  | capture (command : List Text)
  /-- A process that is started. -/
  | start (command : List Text)
  /-- The input of the process that was started. -/
  | feed (input : Option Text)
deriving DecidableEq

/-- The calls of a run, oldest first, and how it ended. -/
structure Run (α : Type) where
  calls : List Call
  result : Except Failure α

namespace Run

variable {α β : Type}

def done (a : α) : Run α := ⟨[], .ok a⟩

def fail (failure : Failure) : Run α := ⟨[], .error failure⟩

def ofExcept (result : Except Failure α) : Run α := ⟨[], result⟩

def call (c : Call) : Run Unit := ⟨[c], .ok ()⟩

/-- A run and, if it ends well, the one that follows it. -/
def andThen (r : Run α) (next : α → Run β) : Run β :=
  match r.result with
  | .ok a => ⟨r.calls ++ (next a).calls, (next a).result⟩
  | .error failure => ⟨r.calls, .error failure⟩

instance : Monad Run where
  pure := done
  bind := andThen

@[simp] theorem pure_eq (a : α) : (pure a : Run α) = done a := rfl

@[simp] theorem bind_eq (r : Run α) (next : α → Run β) : r >>= next = r.andThen next := rfl

@[simp] theorem done_andThen (a : α) (next : α → Run β) : (done a).andThen next = next a := by
  simp [andThen, done]

@[simp] theorem fail_andThen (failure : Failure) (next : α → Run β) :
    (fail failure : Run α).andThen next = fail failure := rfl

theorem calls_andThen_ok {r : Run α} {a : α} (h : r.result = .ok a) (next : α → Run β) :
    (r.andThen next).calls = r.calls ++ (next a).calls := by
  simp [andThen, h]

theorem result_andThen_ok {r : Run α} {a : α} (h : r.result = .ok a) (next : α → Run β) :
    (r.andThen next).result = (next a).result := by
  simp [andThen, h]

theorem andThen_error {r : Run α} {failure : Failure} (h : r.result = .error failure)
    (next : α → Run β) : r.andThen next = ⟨r.calls, .error failure⟩ := by
  simp [andThen, h]

theorem andThen_assoc {γ : Type} (r : Run α) (f : α → Run β) (g : β → Run γ) :
    (r.andThen f).andThen g = r.andThen fun a => (f a).andThen g := by
  cases hr : r.result with
  | error failure => simp [andThen, hr]
  | ok a =>
    cases hf : (f a).result with
    | error failure => simp [andThen, hr, hf]
    | ok b => simp [andThen, hr, hf, List.append_assoc]

end Run

/-- A compiler as the gateway sees it. -/
structure Compiler where
  /-- The path of the compiler of a release, or of the one there is. -/
  locate : Option Text → Run Text
  /-- What the compiler at a path answers to an input. -/
  compile : (binary input : Text) → Run Text
  /-- The banner of the compiler at a path. -/
  banner : (binary : Text) → Run Text

end SolidityGateway
