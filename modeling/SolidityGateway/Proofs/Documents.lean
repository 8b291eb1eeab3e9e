import SolidityGateway.Service.Basic
import SolidityGateway.Proofs.Styles

/-!
What the compiler reads. A document goes to the compiler in ASCII; `compiler_reads_document` says that
any document can be read there, and that it is read as it was unless the two halves of a pair stand
side by side in it, since those are read as one code point.
-/

namespace SolidityGateway

/-- A value that can be handed to the compiler: its integers have at most 4300 digits and it holds no
other numbers, its objects name their members apart, and it is nested fewer than 300 levels. -/
structure IsDocument (v : Json) : Prop where
  numbers : v.readable (fun _ => false) = true
  distinct : v.distinct = true
  height : v.height ≤ 300

/-- Whether in no text and no name of a value the two halves of a pair stand side by side. -/
def Json.pairFree (v : Json) : Bool :=
  v.all (fun | .text t => !t.holdsPair | _ => true) (fun k => !k.holdsPair)

namespace IsDocument

variable {v : Json}

theorem isWritable (h : IsDocument v) : v.readable Layout.isWritable = true := by
  refine Json.all_mono ?_ (fun _ hk => hk) v h.numbers
  intro w
  cases w <;> simp [Json.isReadable]

/-- A document is read as it was with its pairs joined. -/
theorem parseText_write (h : IsDocument v) :
    Json.parseText (v.write .ascii) = .ok (v.retext Encoding.joinHalves Encoding.joinHalves) :=
  Json.parseText_write Json.readBack_ascii h.isWritable (le_trans h.height (by decide))

theorem pairFree_eq (v : Json) :
    v.keepsTexts Encoding.joinHalves Encoding.joinHalves = v.pairFree := by
  have hjoin (t : Text) : decide (Encoding.joinHalves t = t) = !t.holdsPair := by
    simp only [Encoding.joinHalves_eq_self_iff, Bool.decide_eq_false]
  simp only [Json.keepsTexts, hjoin]
  rfl

theorem retext_eq_self_iff (h : IsDocument v) :
    v.retext Encoding.joinHalves Encoding.joinHalves = v ↔ v.pairFree = true := by
  rw [Json.retext_eq_self_iff _ _ v h.distinct, pairFree_eq]

theorem parseText_write_of_pairFree (h : IsDocument v) (hfree : v.pairFree = true) :
    Json.parseText (v.write .ascii) = .ok v := by
  rw [h.parseText_write, h.retext_eq_self_iff.2 hfree]

end IsDocument

namespace Service

theorem isDocument_document (service : Service) (source : Text) :
    IsDocument (service.document (.text source)) where
  numbers := rfl
  distinct := rfl
  height := by
    show 6 ≤ 300
    omega

/-- **The compiler reads every document, and reads it as it was just if no two halves of a pair stand
side by side in it.** What it is given is printable ASCII. -/
theorem compiler_reads_document (service : Service) :
    (∀ source : Text, IsDocument (service.document (.text source))) ∧
      ∀ document : Json, IsDocument document → ∃ input : Text,
        (∀ compiler : Compiler, service.submit compiler document =
          (service.executable compiler).andThen fun binary => compiler.compile binary input) ∧
        (∀ c ∈ input, 0x20 ≤ c.val ∧ c.val ≤ 0x7E) ∧
        (∃ value, Json.parseText input = .ok value) ∧
        (Json.parseText input = .ok document ↔ document.pairFree = true) := by
  refine ⟨isDocument_document service, ?_⟩
  intro document h
  refine ⟨document.write .ascii, fun _ => rfl, ?_, ?_, ?_⟩
  · intro c hc
    have hall := List.all_eq_true.1 (Json.isAsciiPrintable_write document h.isWritable) c hc
    simpa [CodePoint.isAsciiPrintable] using hall
  · exact ⟨_, h.parseText_write⟩
  · rw [h.parseText_write, Except.ok.injEq, h.retext_eq_self_iff]

/-- An emoji that is given as two halves reaches the compiler as one code point, between an integer and
a half that stands alone. -/
theorem compiler_joins_halves :
    let service : Service := ⟨none, none, "contract.sol", .strict⟩
    let document : Json := .object [("sources", .array [.int (-7),
      .text [CodePoint.ofNat 0xD83D, CodePoint.ofNat 0xDE00, CodePoint.ofNat 0xD800]])]
    IsDocument document ∧ ∃ input : Text,
      (∀ compiler : Compiler, service.submit compiler document =
        (service.executable compiler).andThen fun binary => compiler.compile binary input) ∧
      Json.parseText input ≠ .ok document := by
  intro service document
  have h : IsDocument document := ⟨by decide +kernel, by decide +kernel, by decide +kernel⟩
  obtain ⟨input, hsubmit, -, -, hiff⟩ := (compiler_reads_document service).2 document h
  refine ⟨h, input, hsubmit, ?_⟩
  intro heq
  exact absurd (hiff.1 heq) (by decide +kernel)

end Service

end SolidityGateway
