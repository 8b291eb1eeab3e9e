import SolidityGateway.Compiler.Script
import SolidityGateway.Proofs.Client
import SolidityGateway.Proofs.Documents
import SolidityGateway.Proofs.Runs

/-!
From a client's source to the compiler's artifacts. The name that the environment gives is the name
under which the compiler reads the source, and the name under which its artifacts are looked up; what
stands there reaches the client as it is.
-/

namespace SolidityGateway

theorem Text.ofString_ne_nil {s : String} (h : s ≠ "") : Text.ofString s ≠ [] :=
  fun heq => h (Text.ofString_eq_nil_iff.1 heq)

namespace Gateway

variable (service : Service) (compiler : Compiler)

theorem handle_submission {request : Request} {source : Text} (h : request.Submits source)
    (hs : source.hasSurrogate = false) :
    handle service compiler request = compile service compiler (some source) := by
  simp only [handle, h.route, h.ofRequest hs]

theorem compile_ok {source : Option Text} {artifacts : Json}
    (h : (service.compile compiler source).result = .ok artifacts) :
    compile service compiler source =
      ⟨.artifacts artifacts, [], (service.compile compiler source).calls⟩ := by
  simp only [compile, h]

end Gateway

theorem Service.parseText_document (service : Service) {source : Text}
    (hs : source.hasSurrogate = false) (hname : service.sourceName.hasSurrogate = false) :
    Json.parseText ((service.document (.text source)).write .ascii) =
      .ok (service.document (.text source)) := by
  refine (service.isDocument_document source).parseText_write_of_pairFree ?_
  have hwords : ∀ w ∈ ["Solidity", "language", "sources", "settings", "outputSelection", "*", "content"],
      (Text.ofString w).holdsPair = false := by decide
  simp only [List.forall_mem_cons] at hwords
  simp [Json.pairFree, document, Json.all, Json.allMembers, Json.allItems, hwords,
    Text.holdsPair_of_hasSurrogate _ hs, Text.holdsPair_of_hasSurrogate _ hname]

variable {environment : List (Text × Text)} {settings : Settings} {name source : String} {output : Text}
  {compiler : Compiler} {request : Request} {members contracts : List (Text × Json)}

/-- **The artifacts that the compiler writes for a source reach the client that submitted it.** The
compiler is given one document that holds the source under the configured name, and what its output
holds under that name is answered as it is. -/
theorem relays_artifacts (hstart : Startup.Starts environment settings)
    (hname : Settings.variableFor environment "source_name" = some (Text.ofString name))
    (hsource : source ≠ "") (hrequest : request.Submits (Text.ofString source))
    (houtput : (settings.service.submit compiler
      (settings.service.document (.text (Text.ofString source)))).result = .ok output)
    (hread : Json.parseText output = .ok (.object members))
    (herrors : ∀ v, Json.lookup "errors" members = some v → v.isTruthy = false)
    (hcontracts : Json.lookup "contracts" members = some (.object contracts)) :
    let exchange := Gateway.handle settings.service compiler request
    ∃ binary input key : Text,
      (settings.service.executable compiler).result = .ok binary ∧
      (compiler.compile binary input).result = .ok output ∧
      exchange.calls = (settings.service.executable compiler).calls ++ (compiler.compile binary input).calls ∧
      Json.parseText input = .ok (.object [
        ("language", .text "Solidity"),
        ("sources", .object [(key, .object [("content", .text (Text.ofString source))])]),
        ("settings", .object [("outputSelection", .object [("*", .object [("*", .array [.text "*"])])])])]) ∧
      key = Text.ofString name ∧
      (∀ artifacts, Json.lookup key contracts = some (.object artifacts) →
        (∀ m ∈ artifacts, ∃ artifact, m.2 = .object artifact) →
        Response.isStrict (.object artifacts) = true →
        (Json.object artifacts).height ≤ Response.heightLimit + 2 →
        exchange.response.status = 200 ∧ exchange.response.value? = some (.object artifacts)) ∧
      (Json.lookup key contracts = none →
        exchange.response.status = 200 ∧ exchange.response.value? = some (.object [])) := by
  intro exchange
  have hkey := Settings.sourceName_of_load hstart.loads hname
  have hne := Text.ofString_ne_nil hsource
  have hs := Text.hasSurrogate_ofString source
  obtain ⟨binary, hbinary, hcompile, hcalls⟩ := Run.andThen_ok houtput
  have hjudge : settings.service.judge output =
      .ok ((Json.lookup settings.service.sourceName contracts).getD (.object [])) := by
    simp only [Service.judge, hread, Except.mapError, bind, Except.bind]
    exact Policy.verdict_of_clean _ _ herrors hcontracts
  have hresult : (settings.service.compile compiler (some (Text.ofString source))).result =
      .ok ((Json.lookup settings.service.sourceName contracts).getD (.object [])) := by
    rw [Service.compile_eq _ _ hne, Run.result_andThen_ok houtput, Run.ofExcept, hjudge]
  have hexchange : exchange =
      ⟨.artifacts ((Json.lookup settings.service.sourceName contracts).getD (.object [])), [],
        (settings.service.compile compiler (some (Text.ofString source))).calls⟩ := by
    rw [← Gateway.compile_ok _ _ hresult]
    exact Gateway.handle_submission _ _ hrequest hs
  refine ⟨binary, _, settings.service.sourceName, hbinary, hcompile, ?_, ?_, hkey, ?_, ?_⟩
  · rw [hexchange, ← hcalls]
    exact Service.calls_compile _ _ hne
  · exact Service.parseText_document _ hs (hkey ▸ Text.hasSurrogate_ofString name)
  · intro artifacts hlookup hobjects hstrict hheight
    -- what a client reads of the artifacts rests on their having been read from the output
    have houter : Json.Reading (988 + 1 + 1) (.object members) := Json.reading_parseText hread
    have hartifacts := (houter.lookup hcontracts).lookup hlookup
    rw [hexchange, hlookup]
    exact Response.artifacts_of_isStrict hartifacts hstrict hobjects hheight
  · intro hlookup
    rw [hexchange, hlookup]
    exact Response.artifacts_of_isStrict (@Json.Reading.empty 0) rfl
      (fun _ hm => absurd hm List.not_mem_nil) (by decide)

/-- An output with artifacts for `Main.sol` and something else for another file. -/
def mainOutput : Json := .object [("contracts", .object [("Lib.sol", .null),
  ("Main.sol", .object [("C", .object [("abi", .array [])])])])]

def mainSettings : Settings := ⟨"0.0.0.0", 4000, ⟨none, none, "Main.sol", .strict⟩, none⟩

def mainCompiler : Compiler := Script.compiler ⟨"/usr/bin/solc", none, mainOutput.write .ascii, none⟩

/-- The artifacts for `Main.sol` are answered, whatever stands for the other file. -/
theorem relays_artifacts_of_main :
    let exchange := Gateway.handle mainSettings.service mainCompiler
      (Request.submitting (Text.ofString "contract C \x7b\x7d"))
    exchange.response.status = 200 ∧
      exchange.response.value? = some (.object [("C", .object [("abi", .array [])])]) := by
  have hloads : Settings.load [("SOLC_SERVER_SOURCE_NAME", "Main.sol")] [] = .ok mainSettings := by rfl
  have hname : Settings.variableFor [("SOLC_SERVER_SOURCE_NAME", "Main.sol")] "source_name" =
      some (Text.ofString "Main.sol") := by rfl
  have hread : Json.parseText (mainOutput.write .ascii) = .ok mainOutput :=
    IsDocument.parseText_write_of_pairFree ⟨rfl, rfl, by decide⟩ rfl
  have hstarts : Startup.Starts _ mainSettings := ⟨hloads, fun n h => by cases h⟩
  have houtput : (mainSettings.service.submit mainCompiler
      (mainSettings.service.document (.text (Text.ofString "contract C \x7b\x7d")))).result =
        .ok (mainOutput.write .ascii) := rfl
  obtain ⟨_, _, key, -, -, -, -, hkey, hfound, -⟩ := relays_artifacts hstarts hname (by decide)
    (Request.submits_submitting _) houtput hread (fun v h => by cases h) rfl
  subst hkey
  exact hfound [("C", .object [("abi", .array [])])] rfl (by simp) rfl (by decide)

end SolidityGateway
