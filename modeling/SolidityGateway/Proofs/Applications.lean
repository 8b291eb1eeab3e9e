import SolidityGateway.Http.Application
import Mathlib.Tactic.Common

/-!
Gateways with all that they hold. A compilation begins only where there is room for it and gives its
place back when it is over, so a request leaves nothing behind but the compiler that is put in force
before it (`Application.step_snd`). What is answered is what `Gateway.handle` says, and nothing just if
the request is for a compilation and there is no room (`Application.handle_cases`); a gateway that has
started has room unless its limit is 0 (`Application.hasRoom_iff`).
-/

namespace SolidityGateway

/-- A request that begins a compilation, with a source or without: it is sent to where sources are
compiled, and nothing is wrong with its body. -/
structure Request.BeginsCompilation (request : Request) : Prop where
  route : Route.of request.method request.path = .endpoint .compile
  accepted : ∃ source, Submission.ofRequest request = .ok source

namespace Gateway

variable (service : Service) (compiler : Compiler) {request : Request}

theorem handle_of_accepted (hroute : Route.of request.method request.path = .endpoint .compile)
    {source : Option Text} (h : Submission.ofRequest request = .ok source) :
    handle service compiler request = compile service compiler source := by
  simp only [handle, hroute, h]

theorem handle_of_fault (hroute : Route.of request.method request.path = .endpoint .compile)
    {fault : BodyFault} (h : Submission.ofRequest request = .error fault) :
    handle service compiler request = silent (.ofBodyFault fault) := by
  simp only [handle, hroute, h]

end Gateway

namespace Application

variable {app : Application}

/-! ## What a request leaves behind -/

/-- A compilation gives back the place that it took. -/
theorem leave_of_enter {busy : Application} (h : app.enter? = some busy) : busy.leave = app := by
  rw [enter?] at h
  split at h
  · next hplaces =>
    obtain rfl := Option.some.inj h
    rw [leave, hplaces, Option.map_none]
    cases app
    cases hplaces
    rfl
  · next places hplaces =>
    split at h
    · obtain rfl := Option.some.inj h
      rw [leave, Option.map_some, Nat.add_sub_cancel]
      cases app
      cases hplaces
      rfl
    · cases h

theorem compile_snd (app : Application) (source : Option Text) : (app.compile source).2 = app := by
  rw [compile]
  split
  · rfl
  · next busy hbusy => exact leave_of_enter hbusy

theorem handle_snd (app : Application) (request : Request) : (app.handle request).2 = app := by
  rw [handle]
  split
  · exact compile_snd app _
  · rfl

/-- **A request leaves everything as it was** but the compiler that is put in force before it. -/
theorem step_snd (app : Application) (arrival : Gateway.Arrival) :
    (app.step arrival).2 = app.under (arrival.compiler.getD app.compiler) :=
  handle_snd _ _

/-! ## Room -/

/-- A gateway in which a compilation can begin. -/
def HasRoom (app : Application) : Prop := ∀ places, app.places = some places → places.taken < places.total

theorem enter_of_hasRoom (h : app.HasRoom) : ∃ busy, app.enter? = some busy ∧
    busy.service = app.service ∧ busy.compiler = app.compiler := by
  rw [enter?]
  split
  · exact ⟨app, rfl, rfl, rfl⟩
  · next places hplaces => exact ⟨_, if_pos (h places hplaces), rfl, rfl⟩

theorem enter_of_not_hasRoom (h : ¬app.HasRoom) : app.enter? = none := by
  rw [enter?]
  split
  · next hplaces =>
    refine absurd ?_ h
    intro places hsome
    rw [hplaces] at hsome
    cases hsome
  · next places hplaces =>
    apply if_neg
    intro hfree
    apply h
    intro places' hplaces'
    obtain rfl := Option.some.inj (hplaces.symm.trans hplaces')
    exact hfree

/-- **What a request is answered**: nothing if it would begin a compilation and there is no room, and
else what the gateway answers. -/
theorem handle_cases (app : Application) (request : Request) :
    (request.BeginsCompilation ∧ ¬app.HasRoom ∧ (app.handle request).1 = none) ∨
      (request.BeginsCompilation → app.HasRoom) ∧
        (app.handle request).1 = some (Gateway.handle app.service app.compiler request) := by
  rw [handle]
  split
  · next source hroute hsource =>
    by_cases hroom : app.HasRoom
    · obtain ⟨busy, hbusy, hservice, hcompiler⟩ := enter_of_hasRoom hroom
      refine .inr ⟨fun _ => hroom, ?_⟩
      rw [compile, hbusy, Gateway.handle_of_accepted _ _ hroute hsource, ← hservice, ← hcompiler]
    · refine .inl ⟨⟨hroute, source, hsource⟩, hroom, ?_⟩
      rw [compile, enter_of_not_hasRoom hroom]
  · next hother =>
    refine .inr ⟨?_, rfl⟩
    rintro ⟨hroute, source, hsource⟩
    exact absurd hsource (hother source hroute)

theorem handle_fst (request : Request) (h : request.BeginsCompilation → app.HasRoom) :
    (app.handle request).1 = some (Gateway.handle app.service app.compiler request) := by
  obtain ⟨hbegins, hfull, -⟩ | ⟨-, hanswer⟩ := handle_cases app request
  · exact absurd (h hbegins) hfull
  · exact hanswer

theorem eq_handle_of_answered {request : Request} {exchange : Exchange}
    (h : (app.handle request).1 = some exchange) :
    exchange = Gateway.handle app.service app.compiler request := by
  obtain ⟨-, -, hanswer⟩ | ⟨-, hanswer⟩ := handle_cases app request
  · rw [hanswer] at h
    cases h
  · exact Option.some.inj (h.symm.trans hanswer)

theorem handle_of_not_hasRoom {request : Request} (hbegins : request.BeginsCompilation)
    (hfull : ¬app.HasRoom) : (app.handle request).1 = none := by
  obtain ⟨-, -, hanswer⟩ | ⟨hroom, -⟩ := handle_cases app request
  · exact hanswer
  · exact absurd (hroom hbegins) hfull

/-- Where there is room every request of a run is answered. -/
theorem serve_eq (h : app.HasRoom) (arrivals : List Gateway.Arrival) :
    app.serve arrivals = (Gateway.serve app.service app.compiler arrivals).map some := by
  induction arrivals generalizing app with
  | nil => rfl
  | cons arrival rest ih =>
    have hroom : (app.under (arrival.compiler.getD app.compiler)).HasRoom := h
    rw [serve, step_snd, ih hroom, step, handle_fst _ fun _ => hroom]
    rfl

/-! ## Starting -/

section
variable {settings : Settings} {compiler : Compiler} (h : start settings compiler = .ok app)
include h

theorem start_ok : ∃ limit, Startup.limit settings = .ok limit ∧
    app = ⟨settings, settings.service, limit.map fun n => ⟨n.toNat, 0⟩, compiler⟩ := by
  rw [start] at h
  cases hlimit : Startup.limit settings with
  | error e => rw [hlimit] at h; cases h
  | ok limit =>
    rw [hlimit] at h
    exact ⟨limit, rfl, (Except.ok.inj h).symm⟩

theorem service_of_start : app.service = settings.service := by
  obtain ⟨limit, -, rfl⟩ := start_ok h
  rfl

theorem compiler_of_start : app.compiler = compiler := by
  obtain ⟨limit, -, rfl⟩ := start_ok h
  rfl

/-- With another compiler in force it is a gateway that has started with that one. -/
theorem start_under (inForce : Compiler) : start settings inForce = .ok (app.under inForce) := by
  obtain ⟨limit, hlimit, rfl⟩ := start_ok h
  rw [start, hlimit]
  rfl

/-- **A gateway that has started has room for a compilation unless its limit is 0.** -/
theorem hasRoom_iff : app.HasRoom ↔ settings.limit ≠ some 0 := by
  obtain ⟨limit, hlimit, rfl⟩ := start_ok h
  rw [Startup.limit] at hlimit
  split at hlimit
  · next hnone =>
    obtain rfl := Except.ok.inj hlimit
    exact iff_of_true nofun (by rw [hnone]; exact nofun)
  · next n hn =>
    split at hlimit
    · cases hlimit
    · next hnonneg =>
      obtain rfl := Except.ok.inj hlimit
      have hroom : HasRoom ⟨settings, settings.service, some ⟨n.toNat, 0⟩, compiler⟩ ↔ 0 < n.toNat := by
        simp [HasRoom]
      rw [Option.map_some, hroom, hn, Ne, Option.some.injEq]
      omega

theorem handle_of_closed (hclosed : settings.limit = some 0) {request : Request}
    (hbegins : request.BeginsCompilation) : (app.handle request).1 = none := by
  apply handle_of_not_hasRoom hbegins
  rw [hasRoom_iff h]
  exact not_not_intro hclosed

end

def closedSettings : Settings := ⟨"0.0.0.0", 4000, ⟨none, none, "contract.sol", .strict⟩, some 0⟩

theorem load_closedSettings :
    Settings.load [("SOLC_SERVER_MAX_CONCURRENT_COMPILES", "0")] [] = .ok closedSettings :=
  rfl

end Application

end SolidityGateway
