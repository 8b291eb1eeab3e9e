import SolidityGateway.Compiler.Run

/-!
A compiler that answers as it is told to. Each question is one call, and the answer is a text or a
failure that was fixed before.
-/

namespace SolidityGateway

/-- The answers of a compiler. -/
structure Script where
  executable : Text
  locateFailure : Option Failure
  output : Text
  runFailure : Option Failure

namespace Script

/-- The failure, if there is one, and else the answer. -/
def answer (failure : Option Failure) (t : Text) : Except Failure Text :=
  match failure with
  | some f => .error f
  | none => .ok t

def compiler (script : Script) : Compiler where
  locate release := ⟨[.locate release], answer script.locateFailure script.executable⟩
  compile binary input := ⟨[.compile binary input], answer script.runFailure script.output⟩
  banner binary := ⟨[.banner binary], answer script.runFailure script.output⟩

end Script

end SolidityGateway
