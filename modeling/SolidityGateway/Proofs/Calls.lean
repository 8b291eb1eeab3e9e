import SolidityGateway.Compiler.Script
import SolidityGateway.Proofs.Answers
import SolidityGateway.Proofs.Applications

/-!
Which requests reach the compiler. A request reaches it when it submits a source that is not empty, in
any form the gateway takes (`Request.Carries`), or when it asks for the version; no other does, and a
source does not where the limit on compilations is 0. `touches_compiler` says what is asked, for every
gateway that starts, every run of requests and every change of compilers between them.
-/

namespace SolidityGateway

/-! ## Routes -/

theorem Endpoint.hasPath_iff (e : Endpoint) (path : Text) :
    e.hasPath path = true ↔ path = e.path ∨ path = e.path ++ ("\n" : Text) := by
  simp only [hasPath, Bool.or_eq_true, decide_eq_true_eq]

/-- No two endpoints share a path. -/
theorem Endpoint.ofPath?_eq_some {e : Endpoint} {path : Text} :
    ofPath? path = some e ↔ e.hasPath path = true := by
  constructor
  · intro h
    rw [ofPath?] at h
    exact (List.find?_eq_some_iff_append.1 h).1
  · intro h
    -- every spelling of every path is found by computing
    rcases (hasPath_iff e path).1 h with rfl | rfl <;> cases e <;> rfl

/-- A request goes to an endpoint just if it has its method and its path. -/
theorem Route.of_eq_endpoint {method path : Text} {e : Endpoint} :
    of method path = .endpoint e ↔ method = e.method ∧ e.hasPath path = true := by
  rw [← Endpoint.ofPath?_eq_some, of]
  split
  · next found hfound =>
    rw [hfound, Option.some.injEq]
    split
    · next hm =>
      rw [endpoint.injEq]
      constructor
      · intro heq
        subst heq
        exact ⟨hm, rfl⟩
      · intro heq
        exact heq.2
    · next hm =>
      apply iff_of_false
      · intro heq
        cases heq
      · intro h
        obtain ⟨hmethod, rfl⟩ := h
        exact hm hmethod
  · next hnone =>
    rw [hnone]
    apply iff_of_false
    · split <;> intro heq <;> cases heq
    · intro h
      obtain ⟨-, heq⟩ := h
      cases heq

/-! ## Requests -/

/-- A request that carries a source, in any encoding and with anything else beside it. -/
structure Request.Carries (request : Request) (source : Text) : Prop where
  method : request.method = "POST"
  path : request.path = "/compile" ∨ request.path = "/compile\n"
  json : request.holdsJson = true
  body : ∃ text members, Encoding.decodeAny request.body = some text ∧
    Json.parse text = .ok (.object members) ∧ Json.lookup "source" members = some (.text source)

/-- A request that asks for the version. -/
structure Request.AsksVersion (request : Request) : Prop where
  method : request.method = "GET"
  path : request.path = "/version" ∨ request.path = "/version\n"

namespace Submission

theorem ofValue_eq_some {value : Json} {source : Text} :
    ofValue value = .ok (some source) ↔
      ∃ members, value = .object members ∧ Json.lookup "source" members = some (.text source) := by
  constructor
  · intro h
    cases value with
    | object members =>
      simp only [ofValue] at h
      split at h
      · cases h
      · cases h
      · next t heq =>
        cases h
        exact ⟨members, rfl, heq⟩
      · cases h
    | _ => cases h
  · intro h
    obtain ⟨members, rfl, hsource⟩ := h
    simp only [ofValue, hsource]

theorem ofText_eq_some {t source : Text} :
    ofText t = .ok (some source) ↔ ∃ members, Json.parse t = .ok (.object members) ∧
      Json.lookup "source" members = some (.text source) := by
  rw [ofText]
  split
  · next value heq => simp only [heq, ofValue_eq_some, Except.ok.injEq]
  · next heq => simp [heq]
  · next heq => simp [heq]

theorem ofRequest_eq_some {request : Request} {source : Text} :
    ofRequest request = .ok (some source) ↔ request.holdsJson = true ∧
      ∃ text members, Encoding.decodeAny request.body = some text ∧
        Json.parse text = .ok (.object members) ∧ Json.lookup "source" members = some (.text source) := by
  have hbytes : ofBytes request.body = .ok (some source) ↔
      ∃ text members, Encoding.decodeAny request.body = some text ∧
        Json.parse text = .ok (.object members) ∧ Json.lookup "source" members = some (.text source) := by
    rw [ofBytes]
    split
    · next t heq => simp only [heq, ofText_eq_some, Option.some.injEq, exists_and_left, exists_eq_left']
    · next heq => simp [heq]
  rw [ofRequest, ← hbytes]
  split
  · next hempty =>
    rw [hempty]
    apply iff_of_false
    · intro h
      cases h
    · intro h
      obtain ⟨-, h⟩ := h
      cases h
  · split
    · next hjson => simp only [hjson, true_and]
    · next hjson => simp [hjson]

end Submission

namespace Request

variable {request : Request}

theorem carries_iff {source : Text} : request.Carries source ↔
    Route.of request.method request.path = .endpoint .compile ∧
      Submission.ofRequest request = .ok (some source) := by
  rw [Route.of_eq_endpoint, Endpoint.hasPath_iff, Submission.ofRequest_eq_some]
  constructor
  · intro h
    exact ⟨⟨h.method, h.path⟩, h.json, h.body⟩
  · intro h
    obtain ⟨⟨hmethod, hpath⟩, hjson, hbody⟩ := h
    exact ⟨hmethod, hpath, hjson, hbody⟩

theorem asksVersion_iff : request.AsksVersion ↔
    Route.of request.method request.path = .endpoint .version := by
  rw [Route.of_eq_endpoint, Endpoint.hasPath_iff]
  constructor
  · intro h
    exact ⟨h.method, h.path⟩
  · intro h
    obtain ⟨hmethod, hpath⟩ := h
    exact ⟨hmethod, hpath⟩

theorem Carries.beginsCompilation {source : Text} (h : request.Carries source) :
    request.BeginsCompilation := by
  obtain ⟨hroute, hsource⟩ := carries_iff.1 h
  exact ⟨hroute, _, hsource⟩

theorem AsksVersion.not_beginsCompilation (h : request.AsksVersion) : ¬request.BeginsCompilation := by
  intro hbegins
  cases hbegins.route.symm.trans (asksVersion_iff.1 h)

theorem Submits.carries {source : Text} (h : request.Submits source) (hs : source.hasSurrogate = false) :
    request.Carries source :=
  carries_iff.2 ⟨h.route, h.ofRequest hs⟩

end Request

/-! ## Calls of one request -/

/-- What a compiler with these answers is asked by a service that has one question for it: first for
its path, if none is configured, and then the question, if there is a path to ask it at. -/
def Script.asked (script : Script) (service : Service) (question : (binary : Text) → Call) : List Call :=
  match service.binary, script.locateFailure with
  | some path, _ => [question path]
  | none, none => [.locate service.release, question script.executable]
  | none, some _ => [.locate service.release]

/-- A service that has one question asks it where its compiler is. -/
theorem Script.calls_andThen_executable {α : Type} (script : Script) (service : Service)
    {next : Text → Run α} {question : Text → Call}
    (h : ∀ binary, (next binary).calls = [question binary]) :
    ((service.executable script.compiler).andThen next).calls = script.asked service question := by
  rw [Service.executable, asked]
  cases service.binary with
  | some path => simp only [Run.done_andThen, h]
  | none => cases hf : script.locateFailure <;> simp [compiler, answer, hf, Run.andThen, h]

namespace Gateway

variable (service : Service) (compiler : Compiler) {request : Request}

theorem handle_of_carries {source : Text} (h : request.Carries source) :
    handle service compiler request = compile service compiler (some source) := by
  obtain ⟨hroute, hsource⟩ := Request.carries_iff.1 h
  exact handle_of_accepted service compiler hroute hsource

theorem handle_of_asksVersion (h : request.AsksVersion) :
    handle service compiler request = version service compiler := by
  simp only [handle, Request.asksVersion_iff.1 h]

theorem calls_handle_of_carries {source : Text} (h : request.Carries source) (hne : source ≠ []) :
    (handle service compiler request).calls =
      (service.submit compiler (service.document (.text source))).calls := by
  rw [handle_of_carries service compiler h, calls_compile, Service.calls_compile service compiler hne]

theorem calls_handle_of_asksVersion (h : request.AsksVersion) :
    (handle service compiler request).calls = (service.version compiler).calls := by
  rw [handle_of_asksVersion service compiler h, calls_version]

theorem calls_handle_of_neither (hversion : ¬request.AsksVersion)
    (hsource : ∀ source, request.Carries source → source = []) :
    (handle service compiler request).calls = [] := by
  rw [handle]
  split
  · next hroute =>
    split
    · next source heq =>
      rw [calls_compile]
      cases source with
      | none => rfl
      | some t => rw [hsource t (Request.carries_iff.2 ⟨hroute, heq⟩)]; rfl
    · rfl
  · next hroute => exact absurd (Request.asksVersion_iff.2 hroute) hversion
  all_goals rfl

end Gateway

/-! ## Calls of a run -/

/-- An exchange asks the compiler in force what its request calls for. -/
structure Exchange.Touches (exchange : Exchange) (service : Service) (compiler : Compiler)
    (request : Request) : Prop where
  source : ∀ (source : Text) (script : Script), request.Carries source → source ≠ [] →
    compiler = script.compiler → exchange.calls = script.asked service fun binary =>
      .compile binary ((service.document (.text source)).write .ascii)
  version : ∀ script : Script, request.AsksVersion → compiler = script.compiler →
    exchange.calls = script.asked service fun binary => .banner binary
  neither : ¬request.AsksVersion → (∀ source, request.Carries source → source = []) → exchange.calls = []

namespace Gateway

theorem handle_touches (service : Service) (compiler : Compiler) (request : Request) :
    (handle service compiler request).Touches service compiler request where
  source := by
    intro source script hcarries hne hscript
    subst hscript
    rw [calls_handle_of_carries service _ hcarries hne, Service.submit_eq]
    exact script.calls_andThen_executable service fun _ => rfl
  version := by
    intro script hasks hscript
    subst hscript
    rw [calls_handle_of_asksVersion service _ hasks, Service.version_eq]
    apply script.calls_andThen_executable service
    intro binary
    rw [Run.calls_andThen_ofExcept]
    rfl
  neither := calls_handle_of_neither service compiler

/-- The requests of a gateway, each with the compiler that is in force for it. -/
def inForce : Compiler → List Arrival → List (Compiler × Request)
  | _, [] => []
  | compiler, arrival :: rest =>
    (arrival.compiler.getD compiler, arrival.request) :: inForce (arrival.compiler.getD compiler) rest

end Gateway

namespace Application

/-- What becomes of a request touches the compiler that is in force for it as it should: an answer does,
and there is none just if the request begins a compilation and the settings leave no room for one. -/
structure Touches (settings : Settings) (compiler : Compiler) (request : Request)
    (answer : Option Exchange) : Prop where
  answered : ∀ exchange, answer = some exchange → exchange.Touches settings.service compiler request
  unanswered : answer = none ↔ request.BeginsCompilation ∧ settings.limit = some 0

variable {app : Application} {settings : Settings}

theorem handle_touches (hservice : app.service = settings.service)
    (hroom : app.HasRoom ↔ settings.limit ≠ some 0) (request : Request) :
    Touches settings app.compiler request (app.handle request).1 := by
  obtain ⟨hbegins, hfull, hanswer⟩ | ⟨hfree, hanswer⟩ := handle_cases app request
  · rw [hanswer]
    have hclosed : settings.limit = some 0 := not_not.1 fun h => hfull (hroom.2 h)
    exact ⟨nofun, iff_of_true rfl ⟨hbegins, hclosed⟩⟩
  · rw [hanswer]
    refine ⟨?_, iff_of_false nofun ?_⟩
    · rintro exchange ⟨⟩
      rw [← hservice]
      exact Gateway.handle_touches _ _ _
    · intro h
      obtain ⟨hbegins, hclosed⟩ := h
      exact hroom.1 (hfree hbegins) hclosed

theorem serve_touches (hservice : app.service = settings.service)
    (hroom : app.HasRoom ↔ settings.limit ≠ some 0) (arrivals : List Gateway.Arrival) :
    List.Forall₂ (fun served answer => Touches settings served.1 served.2 answer)
      (Gateway.inForce app.compiler arrivals) (app.serve arrivals) := by
  induction arrivals generalizing app with
  | nil => exact .nil
  | cons arrival rest ih =>
    have hservice : (app.under (arrival.compiler.getD app.compiler)).service = settings.service := hservice
    have hroom : (app.under (arrival.compiler.getD app.compiler)).HasRoom ↔ settings.limit ≠ some 0 := hroom
    rw [serve, step_snd]
    exact .cons (handle_touches hservice hroom arrival.request) (ih hservice hroom)

/-- **The compiler is touched by the requests that call for it, and by no others**, in every run of
requests of a gateway that has started: it is asked for its path first, if none is configured, and then
once what the request is about. With the limit 0 no compilation begins: such a request is not answered,
and the compiler not touched. -/
theorem touches_compiler {compiler : Compiler} (hstart : start settings compiler = .ok app)
    (arrivals : List Gateway.Arrival) :
    List.Forall₂ (fun served answer => Touches settings served.1 served.2 answer)
      (Gateway.inForce compiler arrivals) (app.serve arrivals) := by
  have htouches := serve_touches (service_of_start hstart) (hasRoom_iff hstart) arrivals
  rwa [compiler_of_start hstart] at htouches

/-- A source, and then a question for the version when the compiler is gone. -/
def twoArrivals : List Gateway.Arrival :=
  [⟨none, Request.submitting (Text.ofString "x")⟩,
    ⟨some (Script.compiler ⟨"/usr/bin/solc", some (.other "ValueError" "gone"), "", none⟩),
      ⟨"GET", "/version", [], [], []⟩⟩]

/-- The compiler is asked for its path both times, and for nothing more where that fails. -/
theorem touches_compiler_twice :
    let service : Service := ⟨none, some "0.8.24", "contract.sol", .strict⟩
    let compiler := Script.compiler ⟨"/usr/bin/solc", none, "", none⟩
    ∃ app, start ⟨"0.0.0.0", 4000, service, some 1⟩ compiler = .ok app ∧
      ∃ compiled asked, app.serve twoArrivals = [some compiled, some asked] ∧
        compiled.calls = [.locate (some "0.8.24"), .compile "/usr/bin/solc"
          ((service.document (.text (Text.ofString "x"))).write .ascii)] ∧
        asked.calls = [.locate (some "0.8.24")] := by
  intro service compiler
  have hstart : start ⟨"0.0.0.0", 4000, service, some 1⟩ compiler =
      .ok ⟨⟨"0.0.0.0", 4000, service, some 1⟩, service, some ⟨1, 0⟩, compiler⟩ := rfl
  have hrun := touches_compiler hstart twoArrivals
  obtain ⟨first, rest, hfirst, hrest, hserve⟩ := List.forall₂_cons_left_iff.1 hrun
  obtain ⟨second, _, hsecond, hnil, rfl⟩ := List.forall₂_cons_left_iff.1 hrest
  obtain rfl := List.forall₂_nil_left_iff.1 hnil
  have hroom : (some 1 : Option Int) ≠ some 0 := by decide
  obtain ⟨compiled, rfl⟩ := Option.ne_none_iff_exists'.1 fun h => hroom (hfirst.unanswered.1 h).2
  obtain ⟨asked, rfl⟩ := Option.ne_none_iff_exists'.1 fun h => hroom (hsecond.unanswered.1 h).2
  refine ⟨_, hstart, compiled, asked, hserve, ?_, ?_⟩
  · exact (hfirst.answered _ rfl).source _ _
      ((Request.submits_submitting (Text.ofString "x")).carries rfl) (by decide) rfl
  · exact (hsecond.answered _ rfl).version _ ⟨rfl, .inl rfl⟩ rfl

/-- The request that submits `x` to a path that is the compiler's but for a line feed after it. -/
def lineFeedRequest : Request := { Request.submitting (Text.ofString "x") with path := "/compile\n" }

/-- A source that is sent to such a path reaches the compiler, although the path is no endpoint's; and
with the limit 0 a source that is sent to the compiler's own path does not, and is not answered. -/
theorem line_feed_and_closed_gateway :
    let compiler := Script.compiler ⟨"/usr/bin/solc", none, "", none⟩
    ((∀ e : Endpoint, lineFeedRequest.path ≠ e.path) ∧
      ∃ app exchange, start ⟨"0.0.0.0", 4000, ⟨none, none, "contract.sol", .strict⟩, none⟩ compiler = .ok app ∧
        app.serve [⟨none, lineFeedRequest⟩] = [some exchange] ∧ exchange.calls ≠ []) ∧
    Settings.load [("SOLC_SERVER_MAX_CONCURRENT_COMPILES", "0")] [] = .ok closedSettings ∧
      ∃ app, start closedSettings compiler = .ok app ∧
        app.serve [⟨none, Request.submitting (Text.ofString "x")⟩] = [none] := by
  intro compiler
  have hcarries : lineFeedRequest.Carries (Text.ofString "x") :=
    Request.carries_iff.2 ⟨rfl, (Request.submits_submitting (Text.ofString "x")).ofRequest rfl⟩
  have hsubmits := (Request.submits_submitting (Text.ofString "x")).carries rfl
  refine ⟨⟨fun e => by cases e <;> decide, ?_⟩, load_closedSettings, ?_⟩
  · refine ⟨_, Gateway.handle ⟨none, none, "contract.sol", .strict⟩ compiler lineFeedRequest, rfl, ?_, ?_⟩
    · rw [serve_eq fun places h => by cases h]
      rfl
    · rw [Gateway.calls_handle_of_carries _ _ hcarries (by decide)]
      simp [compiler, Service.submit_eq, Service.executable, Script.compiler, Script.answer, Run.andThen]
  · have hstart : start closedSettings compiler =
        .ok ⟨closedSettings, closedSettings.service, some ⟨0, 0⟩, compiler⟩ := rfl
    refine ⟨_, hstart, ?_⟩
    have hanswer := handle_of_closed hstart rfl hsubmits.beginsCompilation
    exact congrArg (fun answer => [answer]) hanswer

end Application

end SolidityGateway
