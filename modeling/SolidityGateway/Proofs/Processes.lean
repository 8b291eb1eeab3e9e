import SolidityGateway.Proofs.Calls

/-!
Compilers that are run as processes. One question goes through three stages: the compiler is found, it
names its release, and the process is started, fed and left to end. `Installation.ask_unresolved`,
`ask_unrecognised` and `ask_started` say what is recorded and answered at each, and from them
`failed_process_gives_no_result` that a compiler which fails at any stage is never the source of a
result, whatever it wrote.
-/

namespace SolidityGateway

/-- Whether a call belongs to a process that was started. -/
def Call.isOfProcess : Call → Bool
  | start _ | feed _ => true
  | _ => false

namespace Installation

variable (i : Installation) (service : Service)

/-- The path that is configured, or else the one where the release that is configured is kept. -/
def configured : Except Failure Text :=
  match service.binary with
  | some path => .ok path
  | none => i.locate service.release

def orStandard (path : Text) : Except Failure Text :=
  if path = [] then i.locateStandard else .ok path

/-- Where the compiler of a service is, in normal form. -/
def pathFor : Except Failure Text := do
  let path ← i.configured service
  let path ← i.orStandard path
  return Path.normal path

/-- The exit code of a process that ends well: 0, but 1 where the path of an old release's compiler
reads as a question for help. -/
def exitFor (path : Text) (release : Release) : Int :=
  if path = "--help" ∧ release.isBefore helpfulFrom then 1 else 0

/-- Why a compiler has no answer for a service: it is not found, it names no release, or it ends
badly. -/
inductive Fails : Prop
  | unresolved (failure : Failure) (h : i.pathFor service = .error failure)
  | unrecognised (failure : Failure) (h : i.ownRelease = .error failure)
  | badExit (path : Text) (release : Release) (hpath : i.pathFor service = .ok path)
      (hrelease : i.ownRelease = .ok release) (h : i.exitCode ≠ exitFor path release)

/-- A compiler that is found, names its release and ends well. -/
inductive EndsWell : Prop
  | intro (path : Text) (release : Release) (hpath : i.pathFor service = .ok path)
      (hrelease : i.ownRelease = .ok release) (h : i.exitCode = exitFor path release)

variable {i service} in
theorem endsWell_of_not_fails (h : ¬i.Fails service) : i.EndsWell service := by
  cases hpath : i.pathFor service with
  | error failure => exact absurd (.unresolved failure hpath) h
  | ok path =>
    cases hrelease : i.ownRelease with
    | error failure => exact absurd (.unrecognised failure hrelease) h
    | ok release =>
      refine .intro path release hpath hrelease ?_
      by_contra hexit
      exact h (.badExit path release hpath hrelease hexit)

variable {i} in
theorem ownRelease_of_banner {found : Text} {release : Release}
    (hfound : Banner.release? i.banner = some found) (hparse : Release.parse found = .ok release) :
    i.ownRelease = .ok release := by
  simp only [ownRelease, hfound, readRelease, hparse]

/-! ## One question -/

/-- What a service asks its compiler with some arguments and input. -/
def ask (arguments : List Text) (input : Option Text) : Run Text :=
  (service.executable i.compiler).andThen fun binary => i.run binary arguments input

variable {i service} {arguments : List Text} {input : Option Text}

/-- The questions that a service asks do not ask for help. -/
theorem goodExit_cons (h : ("--help" : Text) ∉ arguments) (path : Text) (release : Release) :
    goodExit release (path :: arguments) = exitFor path release := by
  have hmem : ("--help" : Text) ∈ path :: arguments ↔ path = "--help" := by
    rw [List.mem_cons, or_iff_left h, eq_comm]
  simp only [goodExit, exitFor, hmem]

def runAt (i : Installation) (arguments : List Text) (input : Option Text) (path : Text) : Run Text := do
  Run.call (.capture [path, "--version"])
  let release ← Run.ofExcept i.ownRelease
  Run.call (.start (path :: arguments))
  Run.call (.feed input)
  if i.exitCode = goodExit release (path :: arguments) then return i.output
  else Run.fail (i.failureOf release (path :: arguments))

theorem ask_eq : i.ask service arguments input =
    (Run.ofExcept (i.pathFor service)).andThen (i.runAt arguments input) := by
  have hexecutable : service.executable i.compiler = Run.ofExcept (i.configured service) := by
    rw [Service.executable, configured]
    cases service.binary <;> rfl
  have hrun (path : Text) : i.run path arguments input =
      (Run.ofExcept (i.orStandard path)).andThen fun path => i.runAt arguments input (Path.normal path) :=
    rfl
  -- nothing is asked to find the path, so its two steps join into one
  simp only [ask, hexecutable, hrun, pathFor, Run.ofExcept_bind, Run.andThen_assoc]
  rfl

theorem ask_unresolved {failure : Failure} (h : i.pathFor service = .error failure) :
    i.ask service arguments input = ⟨[], .error failure⟩ := by
  rw [ask_eq, h]
  rfl

theorem ask_unrecognised {path : Text} {failure : Failure} (hpath : i.pathFor service = .ok path)
    (h : i.ownRelease = .error failure) :
    i.ask service arguments input = ⟨[.capture [path, "--version"]], .error failure⟩ := by
  rw [ask_eq, hpath]
  show i.runAt arguments input path = _
  simp only [runAt, h]
  rfl

/-- A compiler that is started is judged by its exit code. -/
theorem ask_started {path : Text} {release : Release} (hpath : i.pathFor service = .ok path)
    (h : i.ownRelease = .ok release) (harguments : ("--help" : Text) ∉ arguments) :
    i.ask service arguments input =
      ⟨[.capture [path, "--version"], .start (path :: arguments), .feed input],
        if i.exitCode = exitFor path release then .ok i.output
        else .error (i.failureOf release (path :: arguments))⟩ := by
  rw [ask_eq, hpath]
  show i.runAt arguments input path = _
  by_cases hexit : i.exitCode = exitFor path release <;>
    simp [runAt, h, goodExit_cons harguments, hexit, Run.andThen, Run.call, Run.ofExcept,
      Run.done, Run.fail]

theorem ask_of_fails (input : Option Text) (h : i.Fails service)
    (harguments : ("--help" : Text) ∉ arguments) :
    ∃ failure, (i.ask service arguments input).result = .error failure := by
  cases hpath : i.pathFor service with
  | error failure => exact ⟨failure, by rw [ask_unresolved hpath]⟩
  | ok path =>
    cases hrelease : i.ownRelease with
    | error failure => exact ⟨failure, by rw [ask_unrecognised hpath hrelease]⟩
    | ok release =>
      refine ⟨i.failureOf release (path :: arguments), ?_⟩
      have hexit : i.exitCode ≠ exitFor path release := by
        cases h with
        | unresolved failure h => rw [hpath] at h; cases h
        | unrecognised failure h => rw [hrelease] at h; cases h
        | badExit path' release' hpath' hrelease' h =>
          obtain rfl := Except.ok.inj (hpath.symm.trans hpath')
          obtain rfl := Except.ok.inj (hrelease.symm.trans hrelease')
          exact h
      rw [ask_started hpath hrelease harguments, if_neg hexit]

/-- What a compiler fails with concerns its process and not the client. -/
theorem ask_failed {failure : Failure} (h : (i.ask service arguments input).result = .error failure) :
    failure.isOfProcess = true := by
  rw [ask] at h
  rcases Run.andThen_failed h with h | ⟨path, -, h⟩
  · exact isOfProcess_of_raises i (Service.executable_error h)
  · exact run_failed i h

theorem ask_of_endsWell (input : Option Text) (h : i.EndsWell service)
    (harguments : ("--help" : Text) ∉ arguments) :
    (i.ask service arguments input).result = .ok i.output := by
  obtain ⟨path, release, hpath, hrelease, hexit⟩ := h
  rw [ask_started hpath hrelease harguments, if_pos hexit]

theorem ask_ok {output : Text} (h : (i.ask service arguments input).result = .ok output)
    (harguments : ("--help" : Text) ∉ arguments) : i.EndsWell service ∧ output = i.output := by
  have hwell : i.EndsWell service := by
    apply endsWell_of_not_fails
    intro hfails
    obtain ⟨failure, hfailed⟩ := ask_of_fails input hfails harguments
    rw [h] at hfailed
    cases hfailed
  rw [ask_of_endsWell input hwell harguments] at h
  exact ⟨hwell, (Except.ok.inj h).symm⟩

/-- Nothing is started before the compiler is found and has named its release. -/
theorem calls_ask_of_not_started (h : (∀ path, i.pathFor service ≠ .ok path) ∨
    ∀ release, i.ownRelease ≠ .ok release) :
    ∀ call ∈ (i.ask service arguments input).calls, call.isOfProcess = false := by
  cases hpath : i.pathFor service with
  | error failure =>
    rw [ask_unresolved hpath]
    exact fun _ hcall => absurd hcall List.not_mem_nil
  | ok path =>
    cases hrelease : i.ownRelease with
    | error failure =>
      rw [ask_unrecognised hpath hrelease]
      intro call hcall
      rw [List.mem_singleton.1 hcall]
      rfl
    | ok release =>
      rcases h with h | h
      · exact absurd hpath (h path)
      · exact absurd hrelease (h release)

end Installation

/-! ## Services -/

/-- A run that is broken off by a failure on the gateway's side. -/
def Run.Breaks {α : Type} (run : Run α) : Prop :=
  ∃ failure, run.result = .error failure ∧ failure.isForClient = false

namespace Service

variable {service : Service} {i : Installation} {source : Text}

theorem not_help_compile : ("--help" : Text) ∉ [("--standard-json" : Text)] := by decide

theorem not_help_version : ("--help" : Text) ∉ [("--version" : Text), "-"] := by decide

theorem submit_eq_ask (document : Json) : service.submit i.compiler document =
    i.ask service ["--standard-json"] (some (document.write .ascii)) := rfl

theorem version_eq_ask : service.version i.compiler =
    (i.ask service ["--version", "-"] none).andThen fun banner => Run.ofExcept (versionIn banner) := by
  rw [version_eq, Installation.ask, Run.andThen_assoc]
  rfl

theorem compile_breaks (h : i.Fails service) (hsource : source ≠ []) :
    (service.compile i.compiler (some source)).Breaks := by
  obtain ⟨failure, hfailed⟩ := Installation.ask_of_fails
    (some ((service.document (.text source)).write .ascii)) h not_help_compile
  refine ⟨failure, ?_, Failure.isForClient_of_isOfProcess (Installation.ask_failed hfailed)⟩
  rw [compile_eq _ _ hsource, submit_eq_ask, Run.andThen_error hfailed]

theorem version_breaks (h : i.Fails service) : (service.version i.compiler).Breaks := by
  obtain ⟨failure, hfailed⟩ := Installation.ask_of_fails none h not_help_version
  refine ⟨failure, ?_, Failure.isForClient_of_isOfProcess (Installation.ask_failed hfailed)⟩
  rw [version_eq_ask, Run.andThen_error hfailed]

theorem calls_compile_of_not_started (h : (∀ path, i.pathFor service ≠ .ok path) ∨
    ∀ release, i.ownRelease ≠ .ok release) (hsource : source ≠ []) :
    ∀ call ∈ (service.compile i.compiler (some source)).calls, call.isOfProcess = false := by
  rw [calls_compile _ _ hsource, submit_eq_ask]
  exact Installation.calls_ask_of_not_started h

theorem calls_version_of_not_started (h : (∀ path, i.pathFor service ≠ .ok path) ∨
    ∀ release, i.ownRelease ≠ .ok release) :
    ∀ call ∈ (service.version i.compiler).calls, call.isOfProcess = false := by
  rw [version_eq_ask, Run.calls_andThen_ofExcept]
  exact Installation.calls_ask_of_not_started h

theorem submit_ok {document : Json} {output : Text}
    (h : (service.submit i.compiler document).result = .ok output) :
    i.EndsWell service ∧ output = i.output :=
  Installation.ask_ok h not_help_compile

theorem compile_of_endsWell (h : i.EndsWell service) (hsource : source ≠ []) :
    (service.compile i.compiler (some source)).result = service.judge i.output := by
  exact compile_of_submit _ _ hsource (Installation.ask_of_endsWell _ h not_help_compile)

theorem parseText_of_judge {output : Text} (h : (∃ artifacts, service.judge output = .ok artifacts) ∨
    ∃ message diagnostics, service.judge output = .error (.rejected message diagnostics)) :
    ∃ members, Json.parseText output = .ok (.object members) := by
  rcases h with ⟨artifacts, h⟩ | ⟨message, diagnostics, h⟩
  · obtain ⟨value, hvalue, h⟩ := judge_ok h
    obtain ⟨members, _, rfl, -, -⟩ := Policy.verdict_ok h
    exact ⟨members, hvalue⟩
  · rcases judge_error h with ⟨e, he⟩ | ⟨value, hvalue, h⟩
    · cases he
    · rcases Policy.verdict_error h with h | ⟨members, _, _, _, rfl, -, -, -⟩
      · cases h
      · exact ⟨members, hvalue⟩

/-- Artifacts and rejections come from a compiler that ended well and wrote an object. -/
theorem endsWell_of_compile {source : Option Text}
    (h : (∃ artifacts, (service.compile i.compiler source).result = .ok artifacts) ∨
      ∃ message diagnostics,
        (service.compile i.compiler source).result = .error (.rejected message diagnostics)) :
    i.EndsWell service ∧ ∃ members, Json.parseText i.output = .ok (.object members) := by
  rcases h with ⟨artifacts, h⟩ | ⟨message, diagnostics, h⟩
  · obtain ⟨t, output, -, -, hsubmit, hjudge⟩ := compile_ok h
    obtain ⟨hwell, rfl⟩ := submit_ok hsubmit
    exact ⟨hwell, parseText_of_judge (.inl ⟨artifacts, hjudge⟩)⟩
  · rcases compile_error h with h | h | ⟨t, output, -, hsubmit, hjudge⟩
    · cases h
    · cases i.isOfProcess_of_raises h
    · obtain ⟨hwell, rfl⟩ := submit_ok hsubmit
      exact ⟨hwell, parseText_of_judge (.inr ⟨message, diagnostics, hjudge⟩)⟩

end Service

/-! ## Answers -/

namespace Gateway

variable {service : Service} {compiler : Compiler}

theorem status_compile_breaks {source : Option Text} (h : (service.compile compiler source).Breaks) :
    (compile service compiler source).response.status = 500 := by
  obtain ⟨failure, hfailed, hown⟩ := h
  rcases status_compile_failed hfailed with hstatus | ⟨hclient, -⟩
  · exact hstatus
  · rw [hown] at hclient
    cases hclient

theorem status_version_breaks (h : (service.version compiler).Breaks) :
    (version service compiler).response.status = 500 := by
  obtain ⟨failure, hfailed, -⟩ := h
  simp only [version, hfailed]
  exact Response.status_refusal_server _

theorem compile_of_status_ok {request : Request}
    (hroute : Route.of request.method request.path = .endpoint .compile)
    (h : (handle service compiler request).response.status = 200) :
    ∃ source artifacts, (service.compile compiler source).result = .ok artifacts := by
  cases hsubmission : Submission.ofRequest request with
  | ok source =>
    rw [handle_of_accepted _ _ hroute hsubmission] at h
    cases hresult : (service.compile compiler source).result with
    | ok artifacts => exact ⟨source, artifacts, hresult⟩
    | error failure =>
      rcases status_compile_failed hresult with hstatus | ⟨-, hstatus⟩ <;>
        · rw [hstatus] at h
          cases h
  | error fault =>
    have hstatus := Response.status_ofBodyFault fault
    rw [handle_of_fault _ _ hroute hsubmission] at h
    cases hstatus.symm.trans h

variable {i : Installation} {request : Request} {source : Text}

theorem status_of_fails (h : i.Fails service) (hsource : source ≠ [])
    (hrequest : request.Carries source ∨ request.AsksVersion) :
    (handle service i.compiler request).response.status = 500 := by
  rcases hrequest with hcarries | hasks
  · rw [handle_of_carries _ _ hcarries]
    exact status_compile_breaks (Service.compile_breaks h hsource)
  · rw [handle_of_asksVersion _ _ hasks]
    exact status_version_breaks (Service.version_breaks h)

theorem calls_handle_of_not_started (h : (∀ path, i.pathFor service ≠ .ok path) ∨
    ∀ release, i.ownRelease ≠ .ok release) (hsource : source ≠ [])
    (hrequest : request.Carries source ∨ request.AsksVersion) :
    ∀ call ∈ (handle service i.compiler request).calls, call.isOfProcess = false := by
  rcases hrequest with hcarries | hasks
  · rw [handle_of_carries _ _ hcarries, calls_compile]
    exact Service.calls_compile_of_not_started h hsource
  · rw [calls_handle_of_asksVersion _ _ hasks]
    exact Service.calls_version_of_not_started h

theorem endsWell_of_status_ok (hroute : Route.of request.method request.path = .endpoint .compile)
    (h : (handle service i.compiler request).response.status = 200) :
    i.EndsWell service ∧ ∃ members, Json.parseText i.output = .ok (.object members) := by
  obtain ⟨source, artifacts, hresult⟩ := compile_of_status_ok hroute h
  exact Service.endsWell_of_compile (.inl ⟨artifacts, hresult⟩)

end Gateway

/-- **A compiler that failed is never the source of a result.** Where it is not found, names no release
or ends badly, the service breaks off and the answer of a gateway that has started is 500, whatever was
written; in the first two cases no process is started. Only with the limit 0 a compilation is not
answered at all. And where artifacts or a rejection are found, or the answer is 200, the compiler was
found, named its release, ended well and wrote an object. -/
theorem failed_process_gives_no_result {settings : Settings} {compiler : Compiler} {app : Application}
    (hstart : Application.start settings compiler = .ok app) (i : Installation) {source : Text}
    (hsource : source ≠ []) :
    let service := settings.service
    let answer (request : Request) := ((app.under i.compiler).handle request).1
    (i.Fails service →
      (service.compile i.compiler (some source)).Breaks ∧ (service.version i.compiler).Breaks ∧
      (∀ request : Request, request.Carries source → (answer request).map (·.response.status) =
        if settings.limit = some 0 then none else some 500) ∧
      ∀ request : Request, request.AsksVersion → (answer request).map (·.response.status) = some 500) ∧
    (((∀ path, i.pathFor service ≠ .ok path) ∨ ∀ release, i.ownRelease ≠ .ok release) →
      (∀ call ∈ (service.compile i.compiler (some source)).calls, call.isOfProcess = false) ∧
      (∀ call ∈ (service.version i.compiler).calls, call.isOfProcess = false) ∧
      ∀ request : Request, request.Carries source ∨ request.AsksVersion →
        ∀ exchange, answer request = some exchange →
          ∀ call ∈ exchange.calls, call.isOfProcess = false) ∧
    ((∃ artifacts, (service.compile i.compiler (some source)).result = .ok artifacts) ∨
      (∃ message diagnostics,
        (service.compile i.compiler (some source)).result = .error (.rejected message diagnostics)) →
      i.EndsWell service ∧ ∃ members, Json.parseText i.output = .ok (.object members)) ∧
    ∀ request : Request, Route.of request.method request.path = .endpoint .compile →
      (answer request).map (·.response.status) = some 200 →
      i.EndsWell service ∧ ∃ members, Json.parseText i.output = .ok (.object members) := by
  intro service answer
  have hunder := Application.start_under hstart i.compiler
  have hservice : (app.under i.compiler).service = service := Application.service_of_start hunder
  -- with room and without, an answer is the gateway's
  have hanswer (request : Request) (exchange : Exchange) (h : answer request = some exchange) :
      exchange = Gateway.handle service i.compiler request := by
    rw [← hservice]
    exact Application.eq_handle_of_answered h
  have hanswered (request : Request) (h : request.BeginsCompilation → settings.limit ≠ some 0) :
      answer request = some (Gateway.handle service i.compiler request) := by
    rw [← hservice]
    exact Application.handle_fst request fun hbegins => (Application.hasRoom_iff hunder).2 (h hbegins)
  refine ⟨?_, ?_, Service.endsWell_of_compile, ?_⟩
  · intro hfails
    refine ⟨Service.compile_breaks hfails hsource, Service.version_breaks hfails, ?_, ?_⟩
    · intro request hcarries
      split
      · next hclosed =>
        rw [Option.map_eq_none_iff]
        exact Application.handle_of_closed hunder hclosed hcarries.beginsCompilation
      · next hopen =>
        rw [hanswered request fun _ => hopen, Option.map_some,
          Gateway.status_of_fails hfails hsource (.inl hcarries)]
    · intro request hasks
      rw [hanswered request fun hbegins => absurd hbegins hasks.not_beginsCompilation, Option.map_some,
        Gateway.status_of_fails hfails hsource (.inr hasks)]
  · intro hstopped
    refine ⟨Service.calls_compile_of_not_started hstopped hsource,
      Service.calls_version_of_not_started hstopped, ?_⟩
    intro request hrequest exchange hexchange
    rw [hanswer request exchange hexchange]
    exact Gateway.calls_handle_of_not_started hstopped hsource hrequest
  · intro request hroute hstatus
    obtain ⟨exchange, hexchange, hok⟩ := Option.map_eq_some_iff.1 hstatus
    rw [hanswer request exchange hexchange] at hok
    exact Gateway.endsWell_of_status_ok hroute hok

/-- A compiler that ends badly after it wrote an output that holds artifacts. -/
def abortedCompiler : Installation where
  standard := some "/usr/bin/solc"
  directory := ""
  files := []
  banner := "Version: 0.8.24+commit.e11b9ed9"
  exitCode := 3
  output := mainOutput.write .ascii
  complaints := ""

/-- The artifacts that it wrote are not answered. -/
theorem failed_process_of_artifacts :
    Json.parseText abortedCompiler.output = .ok mainOutput ∧
      (mainSettings.service.compile abortedCompiler.compiler (some (Text.ofString "x"))).Breaks ∧
      ∃ app, Application.start mainSettings abortedCompiler.compiler = .ok app ∧
        (app.handle (Request.submitting (Text.ofString "x"))).1.map (·.response.status) = some 500 := by
  have hpath : abortedCompiler.pathFor mainSettings.service = .ok "/usr/bin/solc" := rfl
  have hrelease : abortedCompiler.ownRelease = .ok ⟨0, [0, 8, 24], false, false, false⟩ :=
    Installation.ownRelease_of_banner (show _ = some ("0.8.24+commit.e11b9ed9" : Text) by decide +kernel)
      (by decide +kernel)
  have hfails : abortedCompiler.Fails mainSettings.service :=
    .badExit _ _ hpath hrelease (by decide)
  have hsource : Text.ofString "x" ≠ [] := by decide
  have hstart : Application.start mainSettings abortedCompiler.compiler =
      .ok ⟨mainSettings, mainSettings.service, none, abortedCompiler.compiler⟩ := rfl
  obtain ⟨hbreaks, -, hanswers, -⟩ :=
    (failed_process_gives_no_result hstart abortedCompiler hsource).1 hfails
  refine ⟨IsDocument.parseText_write_of_pairFree ⟨rfl, rfl, by decide⟩ rfl, hbreaks, _, hstart, ?_⟩
  exact hanswers _ ((Request.submits_submitting _).carries rfl)

/-- The settings of a gateway whose compiler has the path `--help`. -/
def helpSettings : Settings := ⟨"0.0.0.0", 4000, ⟨some "--help", none, "contract.sol", .strict⟩, none⟩

/-- A compiler of an old release that ends with the exit code 1. -/
def helpCompiler : Installation where
  standard := none
  directory := ""
  files := []
  banner := "Version: 0.8.9+commit.e5eed63a"
  exitCode := 1
  output := (Json.object []).write .ascii
  complaints := ""

/-- Under the path `--help` the exit code 1 of an old release is no failure: the source is compiled. And
where a compiler fails, but the limit is 0, a source is not answered with 500: it is not answered. -/
theorem help_path_gives_result :
    (Startup.Starts [("SOLC_SERVER_SOLC_BINARY", "--help")] helpSettings ∧
      helpCompiler.exitCode ≠ 0 ∧
      (helpSettings.service.compile helpCompiler.compiler (some (Text.ofString "x"))).result =
        .ok (.object []) ∧
      ∃ app, Application.start helpSettings helpCompiler.compiler = .ok app ∧
        (app.handle (Request.submitting (Text.ofString "x"))).1.map (·.response.status) = some 200) ∧
    Settings.load [("SOLC_SERVER_MAX_CONCURRENT_COMPILES", "0")] [] = .ok Application.closedSettings ∧
      abortedCompiler.exitCode ≠ 0 ∧
      ∃ app, Application.start Application.closedSettings abortedCompiler.compiler = .ok app ∧
        (app.handle (Request.submitting (Text.ofString "x"))).1 = none := by
  have hpath : helpCompiler.pathFor helpSettings.service = .ok "--help" := rfl
  have hrelease : helpCompiler.ownRelease = .ok ⟨0, [0, 8, 9], false, false, false⟩ :=
    Installation.ownRelease_of_banner (show _ = some ("0.8.9+commit.e5eed63a" : Text) by decide +kernel)
      (by decide +kernel)
  have hwell : helpCompiler.EndsWell helpSettings.service :=
    .intro _ _ hpath hrelease (by decide)
  have hread : Json.parseText helpCompiler.output = .ok (.object []) :=
    IsDocument.parseText_write_of_pairFree ⟨rfl, rfl, by decide⟩ rfl
  have hresult : (helpSettings.service.compile helpCompiler.compiler
      (some (Text.ofString "x"))).result = .ok (.object []) := by
    rw [Service.compile_of_endsWell hwell (by decide), Service.judge, hread]
    rfl
  have hsubmits := Request.submits_submitting (Text.ofString "x")
  have hhelp : Application.start helpSettings helpCompiler.compiler =
      .ok ⟨helpSettings, helpSettings.service, none, helpCompiler.compiler⟩ := rfl
  have hclosed : Application.start Application.closedSettings abortedCompiler.compiler =
      .ok ⟨Application.closedSettings, Application.closedSettings.service, some ⟨0, 0⟩,
        abortedCompiler.compiler⟩ := rfl
  refine ⟨⟨⟨rfl, fun n h => by cases h⟩, by decide, hresult, _, hhelp, ?_⟩,
    Application.load_closedSettings, by decide, _, hclosed, ?_⟩
  · have hroom := (Application.hasRoom_iff hhelp).2 (by decide)
    rw [Application.handle_fst _ fun _ => hroom, Option.map_some,
      Gateway.handle_submission _ _ hsubmits rfl, Gateway.compile_ok _ _ hresult]
    rfl
  · exact Application.handle_of_closed hclosed rfl (hsubmits.carries rfl).beginsCompilation

end SolidityGateway
