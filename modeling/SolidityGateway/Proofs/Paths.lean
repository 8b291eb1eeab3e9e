import SolidityGateway.Proofs.Processes
import SolidityGateway.Service.Session

/-!
Paths in normal form, and compilers at a path. A path spells components, and slashes and lone dots
between them make no difference (`Path.Spells`); its normal form is the root that the slashes at its
beginning stand for, with those components behind it (`Path.IsNormalOf`). The normal form of a normal
form is itself, so a service that is given a path and one that is given its normal form run the same
compiler (`given_paths_agree`).
-/

namespace SolidityGateway

namespace Text

/-- Splitting at one code point is the library's. -/
theorem splitOn_singleton (c : CodePoint) (t : Text) : splitOn [c] t = List.splitOn c t := by
  induction t with
  | nil => rfl
  | cons d t ih =>
    have hhere : [c].isPrefixOf (d :: t) = (d == c) := by
      rw [List.isPrefixOf, List.isPrefixOf, Bool.and_true, Bool.beq_comm]
    rw [splitOn] at ih ⊢
    rw [List.splitOn_cons_eq_if_modifyHead, splitFrom, hhere, ← ih]
    split
    · rfl
    · cases h : splitFrom [c] 0 t with
      | nil => exact absurd (ih.symm.trans h) (List.splitOn_ne_nil c t)
      | cons piece pieces => rfl

theorem notMem_of_mem_splitOn {c : CodePoint} {t piece : Text} (h : piece ∈ List.splitOn c t) :
    c ∉ piece := by
  induction t generalizing piece with
  | nil =>
    rw [List.splitOn_nil, List.mem_singleton] at h
    rw [h]
    exact List.not_mem_nil
  | cons d t ih =>
    rw [List.splitOn_cons_eq_if_modifyHead] at h
    split at h
    · rcases List.mem_cons.1 h with rfl | h
      · exact List.not_mem_nil
      · exact ih h
    · next hne =>
      obtain ⟨first, pieces, hpieces⟩ := List.exists_cons_of_ne_nil (List.splitOn_ne_nil c t)
      rw [hpieces, List.modifyHead_cons] at h
      rcases List.mem_cons.1 h with rfl | h
      · have hfirst : c ∉ first := ih (by rw [hpieces]; exact List.mem_cons_self)
        intro hc
        rcases List.mem_cons.1 hc with rfl | hc
        · exact hne (beq_self_eq_true c)
        · exact hfirst hc
      · exact ih (by rw [hpieces]; exact List.mem_cons_of_mem _ h)

end Text

namespace Path

def slash : CodePoint := '/'

/-! ## Components -/

/-- A component that is kept. -/
structure IsComponent (part : Text) : Prop where
  nonempty : part ≠ []
  notHere : part ≠ "."
  solid : slash ∉ part

/-- A text that goes on with a slash, if it goes on. -/
def Cut (t : Text) : Prop := t = [] ∨ ∃ rest, t = slash :: rest

/-- A text spells components: they stand in it in their order, and between them, in front and behind
nothing but slashes and dots that are a piece of their own. -/
inductive Spells : Text → List Text → Prop
  | nil : Spells [] []
  | skipSlash {t : Text} {parts : List Text} (h : Spells t parts) : Spells (slash :: t) parts
  | skipDot {t : Text} {parts : List Text} (hcut : Cut t) (h : Spells t parts) :
    Spells (("." : Text) ++ t) parts
  | keep {part t : Text} {parts : List Text} (hpart : IsComponent part) (hcut : Cut t)
    (h : Spells t parts) : Spells (part ++ t) (part :: parts)

def isKept (piece : Text) : Bool := piece ≠ [] ∧ piece ≠ "."

theorem components_eq (t : Text) : components t = (List.splitOn slash t).filter isKept :=
  congrArg (List.filter isKept) (Text.splitOn_singleton slash t)

theorem components_slash (t : Text) : components (slash :: t) = components t := by
  rw [components_eq, components_eq, List.splitOn_cons_eq_if_modifyHead, if_pos (beq_self_eq_true slash)]
  rfl

theorem components_append {piece t : Text} (hsolid : slash ∉ piece) (hcut : Cut t) :
    components (piece ++ t) = [piece].filter isKept ++ components t := by
  rcases hcut with rfl | ⟨rest, rfl⟩
  · rw [List.append_nil, components_eq, List.splitOn_eq_singleton hsolid]
    exact (List.append_nil _).symm
  · rw [components_slash, components_eq, components_eq, List.splitOn_append_cons_self_of_not_mem hsolid,
      ← List.filter_append]
    rfl

theorem isKept_of_isComponent {part : Text} (h : IsComponent part) : isKept part = true :=
  decide_eq_true ⟨h.nonempty, h.notHere⟩

theorem components_of_spells {t : Text} {parts : List Text} (h : Spells t parts) :
    components t = parts := by
  induction h with
  | nil => rfl
  | skipSlash h ih => rw [components_slash, ih]
  | skipDot hcut h ih => rw [components_append (by decide) hcut, ih]; rfl
  | keep hpart hcut h ih =>
    rw [components_append hpart.solid hcut, ih, List.filter_singleton, isKept_of_isComponent hpart]
    rfl

theorem Spells.isComponent {t : Text} {parts : List Text} (h : Spells t parts) :
    ∀ part ∈ parts, IsComponent part := by
  induction h with
  | nil => exact fun _ hpart => absurd hpart List.not_mem_nil
  | skipSlash h ih => exact ih
  | skipDot hcut h ih => exact ih
  | keep hpart hcut h ih => exact List.forall_mem_cons.2 ⟨hpart, ih⟩

theorem Spells.piece {piece t : Text} {parts : List Text} (hsolid : slash ∉ piece) (hcut : Cut t)
    (h : Spells t parts) : Spells (piece ++ t) ([piece].filter isKept ++ parts) := by
  by_cases hempty : piece = []
  · subst hempty
    exact h
  · by_cases hhere : piece = "."
    · subst hhere
      exact .skipDot hcut h
    · have hpart : IsComponent piece := ⟨hempty, hhere, hsolid⟩
      rw [List.filter_singleton, isKept_of_isComponent hpart]
      exact .keep hpart hcut h

theorem spells_join : ∀ {pieces : List Text}, (∀ piece ∈ pieces, slash ∉ piece) →
    Spells (Text.join "/" pieces) (pieces.filter isKept)
  | [], _ => .nil
  | [piece], h => by
    have hpiece := Spells.piece (h piece List.mem_cons_self) (.inl rfl) .nil
    simpa [Text.join] using hpiece
  | piece :: next :: more, h => by
    obtain ⟨hsolid, hmore⟩ := List.forall_mem_cons.1 h
    have hrest := spells_join hmore
    have hpiece := Spells.piece hsolid (.inr ⟨_, rfl⟩) (.skipSlash hrest)
    have hjoin : Text.join "/" (piece :: next :: more) =
        piece ++ slash :: Text.join "/" (next :: more) := by
      rw [Text.join, List.intercalate_cons_cons, List.append_assoc]
      rfl
    rw [← List.filter_append] at hpiece
    rw [hjoin]
    exact hpiece

theorem spells_components (t : Text) : Spells t (components t) := by
  have hspells : Spells (Text.join "/" (List.splitOn slash t)) ((List.splitOn slash t).filter isKept) :=
    spells_join fun _ h => Text.notMem_of_mem_splitOn h
  have hjoin : Text.join "/" (List.splitOn slash t) = t := List.intercalate_splitOn slash
  rwa [hjoin, ← components_eq] at hspells

/-- **The components of a path are those that it spells.** -/
theorem components_eq_iff {t : Text} {parts : List Text} : components t = parts ↔ Spells t parts := by
  constructor
  · rintro rfl
    exact spells_components t
  · exact components_of_spells

theorem spells_join_of_isComponent {parts : List Text} (h : ∀ part ∈ parts, IsComponent part) :
    Spells (Text.join "/" parts) parts := by
  have hkept : parts.filter isKept = parts :=
    List.filter_eq_self.2 fun part hpart => isKept_of_isComponent (h part hpart)
  have hspells := spells_join fun part hpart => (h part hpart).solid
  rwa [hkept] at hspells

/-! ## Normal forms -/

/-- What slashes at the beginning of a path stand for. -/
def rootOf : (slashes : Nat) → Text
  | 0 => ""
  | 2 => "//"
  | _ => "/"

/-- The path of components behind a root. -/
def compose (root : Text) (parts : List Text) : Text :=
  if root = [] ∧ parts = [] then "." else root ++ Text.join "/" parts

/-- A text is the normal form of a path: what the slashes at its beginning stand for, and behind it
the components that the rest spells. -/
inductive IsNormalOf (path text : Text) : Prop
  | intro (slashes : Nat) (rest : Text) (parts : List Text)
    (hpath : path = List.replicate slashes slash ++ rest) (hrest : rest.head? ≠ some slash)
    (hspells : Spells rest parts) (htext : text = compose (rootOf slashes) parts)

theorem rootOf_length (slashes : Nat) :
    rootOf slashes = List.replicate (rootOf slashes).length slash ∧
      rootOf (rootOf slashes).length = rootOf slashes := by
  match slashes with
  | 0 => exact ⟨rfl, rfl⟩
  | 1 => exact ⟨rfl, rfl⟩
  | 2 => exact ⟨rfl, rfl⟩
  | _ + 3 => exact ⟨rfl, rfl⟩

theorem spells_slashes {t : Text} {parts : List Text} (h : Spells t parts) (slashes : Nat) :
    Spells (List.replicate slashes slash ++ t) parts := by
  induction slashes with
  | zero => exact h
  | succ n ih => exact .skipSlash ih

theorem root_slashes (slashes : Nat) {rest : Text} (h : rest.head? ≠ some slash) :
    root (List.replicate slashes slash ++ rest) = rootOf slashes := by
  have htake : (List.replicate slashes slash ++ rest).takeWhile (· = slash) =
      List.replicate slashes slash := by
    rw [List.takeWhile_append_of_pos (by simp)]
    cases rest with
    | nil => rw [List.takeWhile_nil, List.append_nil]
    | cons c rest =>
      have hc : c ≠ slash := by simpa using h
      rw [List.takeWhile_cons_of_neg (by simpa using hc), List.append_nil]
  rw [root, show CodePoint.ofChar '/' = slash from rfl, htake, List.length_replicate]
  rfl

theorem join_eq_nil_iff {parts : List Text} (h : ∀ part ∈ parts, IsComponent part) :
    Text.join "/" parts = [] ↔ parts = [] := by
  constructor
  · intro hnil
    have hparts := components_of_spells (spells_join_of_isComponent h)
    rw [hnil] at hparts
    exact hparts.symm
  · rintro rfl
    rfl

theorem compose_eq {root : Text} {parts : List Text} (h : ∀ part ∈ parts, IsComponent part) :
    compose root parts =
      if root ++ Text.join "/" parts = [] then ("." : Text) else root ++ Text.join "/" parts := by
  simp only [compose, List.append_eq_nil_iff, join_eq_nil_iff h]

theorem normal_of_isNormalOf {t u : Text} (h : IsNormalOf t u) : normal t = u := by
  obtain ⟨slashes, rest, parts, rfl, hrest, hspells, rfl⟩ := h
  have hparts := components_of_spells (spells_slashes hspells slashes)
  rw [compose_eq hspells.isComponent, normal, root_slashes slashes hrest, hparts]

theorem exists_slashes (t : Text) : ∃ slashes rest,
    t = List.replicate slashes slash ++ rest ∧ rest.head? ≠ some slash := by
  induction t with
  | nil => exact ⟨0, [], rfl, by simp⟩
  | cons c t ih =>
    by_cases hc : c = slash
    · obtain ⟨slashes, rest, ht, hrest⟩ := ih
      exact ⟨slashes + 1, rest, by rw [hc, ht]; rfl, hrest⟩
    · exact ⟨0, c :: t, rfl, by simpa using hc⟩

theorem isNormalOf_normal (t : Text) : IsNormalOf t (normal t) := by
  obtain ⟨slashes, rest, ht, hrest⟩ := exists_slashes t
  have h := IsNormalOf.intro slashes rest (components rest) ht hrest (spells_components rest) rfl
  rwa [normal_of_isNormalOf h]

/-- **The normal form of a path is its root with the components that it spells.** -/
theorem normal_eq_iff {t u : Text} : normal t = u ↔ IsNormalOf t u := by
  constructor
  · rintro rfl
    exact isNormalOf_normal t
  · exact normal_of_isNormalOf

theorem head_join {parts : List Text} (h : ∀ part ∈ parts, IsComponent part) :
    (Text.join "/" parts).head? ≠ some slash := by
  cases parts with
  | nil => simp [Text.join]
  | cons part parts =>
    have hpart := h part List.mem_cons_self
    obtain ⟨c, more, rfl⟩ := List.exists_cons_of_ne_nil hpart.nonempty
    have hjoin : ∃ rest, Text.join "/" ((c :: more) :: parts) = c :: rest := by
      cases parts with
      | nil => exact ⟨more, by simp [Text.join]⟩
      | cons next parts => exact ⟨_, List.intercalate_cons_cons⟩
    obtain ⟨rest, hrest⟩ := hjoin
    rw [hrest, List.head?_cons, Ne, Option.some.injEq]
    rintro rfl
    exact hpart.solid List.mem_cons_self

/-- **A normal form is its own normal form.** -/
theorem normal_normal (t : Text) : normal (normal t) = normal t := by
  obtain ⟨slashes, rest, parts, -, -, hspells, hnormal⟩ := isNormalOf_normal t
  rw [hnormal, compose]
  split
  · rfl
  · next hne =>
    have hparts := hspells.isComponent
    obtain ⟨hroot, hlength⟩ := rootOf_length slashes
    apply normal_of_isNormalOf
    refine .intro (rootOf slashes).length (Text.join "/" parts) parts ?_ (head_join hparts)
      (spells_join_of_isComponent hparts) ?_
    · rw [← hroot]
    · rw [hlength, compose, if_neg hne]

theorem normal_ne_nil (t : Text) : normal t ≠ [] := by
  rw [normal]
  split
  · decide
  · next h => exact h

end Path

/-! ## Compilers at a path -/

namespace Installation

variable (i : Installation)

theorem pathFor_of_binary (service : Service) {path : Text} (h : path ≠ []) :
    i.pathFor { service with binary := some path } = .ok (Path.normal path) := by
  have hgiven : i.orStandard path = .ok path := if_neg h
  show (do let path ← i.orStandard path; return Path.normal path) = _
  rw [hgiven]
  rfl

theorem pathFor_normal (service : Service) {path : Text} (h : path ≠ []) :
    i.pathFor { service with binary := some (Path.normal path) } =
      i.pathFor { service with binary := some path } := by
  rw [pathFor_of_binary i service h, pathFor_of_binary i service (Path.normal_ne_nil path),
    Path.normal_normal]

theorem ask_normal (service : Service) {path : Text} (h : path ≠ []) (arguments : List Text)
    (input : Option Text) :
    i.ask { service with binary := some (Path.normal path) } arguments input =
      i.ask { service with binary := some path } arguments input := by
  rw [ask_eq, ask_eq, pathFor_normal i service h]

end Installation

namespace Service

variable (i : Installation) (service : Service) {path : Text}

theorem submit_normal (h : path ≠ []) (document : Json) :
    { service with binary := some (Path.normal path) }.submit i.compiler document =
      { service with binary := some path }.submit i.compiler document := by
  rw [submit_eq_ask, submit_eq_ask, Installation.ask_normal i service h]

theorem compile_normal (h : path ≠ []) (source : Option Text) :
    { service with binary := some (Path.normal path) }.compile i.compiler source =
      { service with binary := some path }.compile i.compiler source := by
  match source with
  | none | some [] => rfl
  | some (c :: rest) =>
    rw [compile_eq _ _ (List.cons_ne_nil c rest), compile_eq _ _ (List.cons_ne_nil c rest)]
    exact congrArg (Run.andThen · _) (submit_normal i service h _)

theorem version_normal (h : path ≠ []) :
    { service with binary := some (Path.normal path) }.version i.compiler =
      { service with binary := some path }.version i.compiler := by
  rw [version_eq_ask, version_eq_ask, Installation.ask_normal i service h]

end Service

/-! ## Sessions -/

namespace Step

/-- What a step answers where the path of the compiler is given, and where its normal form is: only the
question for the path itself tells the two apart. -/
inductive Alike (path : Text) : Step → Run Json → Run Json → Prop
  | executable : Alike path .executable (.done (.text path)) (.done (.text (Path.normal path)))
  | other (step : Step) (run : Run Json) (h : step ≠ .executable) : Alike path step run run

/-- The same of the steps of a session. -/
inductive AllAlike (path : Text) : List Step → List (Run Json) → List (Run Json) → Prop
  | nil : AllAlike path [] [] []
  | cons {step : Step} {steps : List Step} {run run' : Run Json} {runs runs' : List (Run Json)}
    (h : step.Alike path run run') (hrest : AllAlike path steps runs runs') :
    AllAlike path (step :: steps) (run :: runs) (run' :: runs')

/-- Every compiler that is put in force is run as a process. -/
def ReplaceByProcesses (steps : List Step) : Prop :=
  ∀ compiler, replace compiler ∈ steps → ∃ i : Installation, compiler = i.compiler

theorem run_alike (i : Installation) (service : Service) {path : Text} (h : path ≠ []) (step : Step) :
    step.Alike path (step.run { service with binary := some path } i.compiler)
      (step.run { service with binary := some (Path.normal path) } i.compiler) := by
  cases step with
  | executable => exact .executable
  | compile source =>
    rw [run, run, Service.compile_normal i service h]
    exact .other _ _ (by simp)
  | submit t =>
    simp only [run, Service.submit_normal i service h]
    exact .other _ _ (by simp)
  | version =>
    simp only [run, Service.version_normal i service h]
    exact .other _ _ (by simp)
  | document source => exact .other _ _ (by simp)
  | failing t => exact .other _ _ (by simp)
  | replace compiler => exact .other _ _ (by simp)

theorem next_of_replaceByProcesses {step : Step} {steps : List Step}
    (h : ReplaceByProcesses (step :: steps)) (i : Installation) :
    ∃ j : Installation, step.next i.compiler = j.compiler := by
  cases step with
  | replace compiler => exact h compiler List.mem_cons_self
  | _ => exact ⟨i, rfl⟩

end Step

theorem Service.session_alike (service : Service) {path : Text} (h : path ≠ []) {steps : List Step}
    (hsteps : Step.ReplaceByProcesses steps) (i : Installation) :
    Step.AllAlike path steps ({ service with binary := some path }.session i.compiler steps)
      ({ service with binary := some (Path.normal path) }.session i.compiler steps) := by
  induction steps generalizing i with
  | nil => exact .nil
  | cons step steps ih =>
    obtain ⟨j, hj⟩ := Step.next_of_replaceByProcesses hsteps i
    rw [session, session, hj]
    refine .cons (Step.run_alike i service h step) (ih ?_ j)
    intro compiler hcompiler
    exact hsteps compiler (List.mem_cons_of_mem _ hcompiler)

/-- The service whose compiler is at a path and which is else as it is by default. -/
def Service.at (path : Text) : Service := ⟨some path, none, "contract.sol", .strict⟩

/-- **A service that is given the path of its compiler and one whose settings name that path agree.** At
every step of a session they record the same calls and answer the same, but for the question where the
compiler is: there the second answers the normal form of the path, which is its own normal form. -/
theorem given_paths_agree {path : Text} (h : path ≠ []) (i : Installation) {steps : List Step}
    (hsteps : Step.ReplaceByProcesses steps) :
    ∃ settings, Settings.load [("SOLC_SERVER_SOLC_BINARY", path)] [] = .ok settings ∧
      Step.AllAlike path steps ((Service.at path).session i.compiler steps)
        (settings.service.session i.compiler steps) ∧
      Path.IsNormalOf path (Path.normal path) ∧
      Path.normal (Path.normal path) = Path.normal path := by
  refine ⟨⟨"0.0.0.0", 4000, Service.at (Path.normal path), none⟩, rfl, ?_, ?_, ?_⟩
  · exact Service.session_alike (Service.at path) h hsteps i
  · exact Path.isNormalOf_normal path
  · exact Path.normal_normal path

def complainingCompiler : Installation where
  standard := none
  directory := ""
  files := []
  banner := "Version: 0.8.24+commit.e11b9ed9"
  exitCode := 1
  output := ""
  complaints := "Error: stack too deep"

/-- A path with two slashes at its beginning, a lone dot, a step back and a slash at its end. -/
def detour : Text := "//opt/./solc/../bin/solc/"

/-- Also where the compiler is exchanged in between, and where the command is quoted in what it fails
with. -/
theorem given_paths_agree_on_detour :
    let other : Installation := { complainingCompiler with exitCode := 0 }
    let steps : List Step := [.executable, .compile (some "x"), .replace other.compiler, .version]
    detour ≠ [] ∧ Step.ReplaceByProcesses steps ∧ Path.normal detour = "//opt/solc/../bin/solc" ∧
      ∃ settings, Settings.load [("SOLC_SERVER_SOLC_BINARY", detour)] [] = .ok settings ∧
        Step.AllAlike detour steps ((Service.at detour).session complainingCompiler.compiler steps)
          (settings.service.session complainingCompiler.compiler steps) := by
  intro other steps
  have hne : detour ≠ [] := by decide
  have hsteps : Step.ReplaceByProcesses steps := by
    intro compiler hcompiler
    obtain rfl : compiler = other.compiler := by simpa [steps] using hcompiler
    exact ⟨other, rfl⟩
  obtain ⟨settings, hload, halike, -⟩ := given_paths_agree hne complainingCompiler hsteps
  exact ⟨hne, hsteps, by decide, settings, hload, halike⟩

end SolidityGateway
