import SolidityGateway.Proofs.Failures
import Mathlib.Data.List.Infix
import Mathlib.Data.List.TakeWhile

/-!
The version in a banner. The search tries every way to match the mark, the white space and the word, at
one place after the other (`Banner.version?`), and what it finds is what a reader would point at: the
word that follows the first mark (`Banner.Names`). The lemmas say why nothing else is ever found. Of all
ways to match white space only the longest leaves a word (`versionHere?_mark`), and where no word
follows the first mark there is no second one (`version?_of_firstMark`).
-/

namespace SolidityGateway

namespace Banner

variable {test : CodePoint → Bool} {t before after blanks version rest : Text}

/-! ## Runs -/

/-- What is left of a text behind a run does not go on with the run. -/
theorem head_dropWhile (test : CodePoint → Bool) (t : Text) :
    ∀ c ∈ (t.dropWhile test).head?, test c = false := by
  have hhead := List.head?_dropWhile_not test t
  intro c hc
  rw [Option.mem_def] at hc
  rwa [hc] at hhead

/-- A run ends where what follows it does not go on with it. -/
theorem span_append {run : Text} (hrun : ∀ c ∈ run, test c = true)
    (hrest : ∀ c ∈ rest.head?, test c = false) :
    (run ++ rest).takeWhile test = run ∧ (run ++ rest).dropWhile test = rest := by
  rw [List.takeWhile_append_of_pos hrun, List.dropWhile_append_of_pos hrun]
  cases rest with
  | nil => exact ⟨List.append_nil run, rfl⟩
  | cons c rest =>
    have hc : ¬test c = true := by rw [hrest c rfl]; decide
    rw [List.takeWhile_cons, if_neg hc, List.dropWhile_cons, if_neg hc, List.append_nil]
    exact ⟨rfl, rfl⟩

theorem dropWhile_of_takeWhile (h : t.takeWhile test = []) : t.dropWhile test = t := by
  simpa only [h, List.nil_append] using List.takeWhile_append_dropWhile (p := test) (l := t)

/-- White space at the beginning of a text leaves no word there. -/
theorem takeWhile_of_blank (h : t.takeWhile CodePoint.isBlank ≠ []) :
    t.takeWhile (!·.isBlank) = [] := by
  cases t with
  | nil => rfl
  | cons c t =>
    rw [List.takeWhile_cons] at h
    split at h
    · next hc => rw [List.takeWhile_cons, if_neg (by simp [hc])]
    · exact absurd rfl h

/-! ## Ways to match -/

theorem rests_append (first second : List Piece) (t : Text) :
    rests (first ++ second) t = (rests first t).flatMap (rests second) := by
  induction first generalizing t with
  | nil => simp only [List.nil_append, rests, List.flatMap_cons, List.flatMap_nil, List.append_nil]
  | cons piece pieces ih =>
    have hpieces : rests (pieces ++ second) = fun t => (rests pieces t).flatMap (rests second) :=
      funext ih
    simp only [List.cons_append, rests, hpieces, List.flatMap_assoc]

theorem rests_singleton (piece : Piece) (t : Text) : rests [piece] t = piece.rests t :=
  List.flatMap_singleton' _

theorem exactly_cons (c : CodePoint) (m : Text) : exactly (c :: m) = .one (· = c) :: exactly m := rfl

theorem rests_exactly (m rest : Text) : rests (exactly m) (m ++ rest) = [rest] := by
  induction m with
  | nil => rfl
  | cons c m ih =>
    simp only [exactly_cons, List.cons_append, rests, Piece.rests, decide_true, if_true,
      List.flatMap_cons, List.flatMap_nil, List.append_nil, ih]

theorem rests_exactly_of_not {m : Text} (h : ¬m <+: t) : rests (exactly m) t = [] := by
  induction m generalizing t with
  | nil => exact absurd List.nil_prefix h
  | cons c m ih =>
    cases t with
    | nil => rfl
    | cons d t =>
      simp only [exactly_cons, rests, Piece.rests]
      split
      · next hd =>
        have hrest : ¬m <+: t := by
          intro hm
          exact h (List.cons_prefix_cons.2 ⟨(of_decide_eq_true hd).symm, hm⟩)
        simp only [List.flatMap_cons, List.flatMap_nil, List.append_nil, ih hrest]
      · rfl

theorem afterRun_of_stopped (h : t.takeWhile test = []) (shorter : List Text) :
    afterRun test shorter t = shorter := by
  cases t with
  | nil => rfl
  | cons c t =>
    rw [List.takeWhile_cons] at h
    rw [afterRun]
    split at h
    · cases h
    · next hc => rw [if_neg hc]

/-- A run is first matched as far as it goes. Whatever a shorter match leaves goes on with the run. -/
theorem afterRun_eq (h : t.takeWhile test ≠ []) (shorter : List Text) :
    ∃ between, afterRun test shorter t = t.dropWhile test :: (between ++ shorter) ∧
      ∀ left ∈ between, left.takeWhile test ≠ [] := by
  induction t generalizing shorter with
  | nil => exact absurd rfl h
  | cons c t ih =>
    have hc : test c = true := by
      by_contra hc
      exact h (by rw [List.takeWhile_cons, if_neg hc])
    rw [afterRun, if_pos hc, List.dropWhile_cons, if_pos hc]
    by_cases ht : t.takeWhile test = []
    · rw [afterRun_of_stopped ht, dropWhile_of_takeWhile ht]
      exact ⟨[], rfl, fun left hleft => absurd hleft List.not_mem_nil⟩
    · obtain ⟨between, heq, hbetween⟩ := ih ht (t :: shorter)
      refine ⟨between ++ [t], by rw [heq, List.append_assoc, List.singleton_append], ?_⟩
      exact List.forall_mem_append.2 ⟨hbetween, List.forall_mem_singleton.2 ht⟩

theorem rests_many (test : CodePoint → Bool) (t : Text) :
    ∃ others, (Piece.many test).rests t = t.dropWhile test :: others ∧
      ∀ left ∈ others, left.takeWhile test ≠ [] := by
  rw [Piece.rests]
  by_cases h : t.takeWhile test = []
  · rw [afterRun_of_stopped h, dropWhile_of_takeWhile h]
    exact ⟨[], rfl, fun left hleft => absurd hleft List.not_mem_nil⟩
  · obtain ⟨between, heq, hbetween⟩ := afterRun_eq h [t]
    exact ⟨between ++ [t], heq, List.forall_mem_append.2 ⟨hbetween, List.forall_mem_singleton.2 h⟩⟩

theorem head_rests_run (test : CodePoint → Bool) (t : Text) :
    ((Piece.run test).rests t).head? =
      if t.takeWhile test = [] then none else some (t.dropWhile test) := by
  rw [Piece.rests]
  split
  · next h => rw [afterRun_of_stopped h]; rfl
  · next h =>
    obtain ⟨between, heq, -⟩ := afterRun_eq h []
    rw [heq]
    rfl

/-! ## The word behind one mark -/

def firstWord? (t : Text) : Option Text :=
  let word := (t.dropWhile CodePoint.isBlank).takeWhile (!·.isBlank)
  if word = [] then none else some word

/-- The first word of a text stands behind white space and reaches to white space or the end. -/
theorem firstWord?_eq_some_iff : firstWord? t = some version ↔
    ∃ blanks rest, t = blanks ++ version ++ rest ∧ (∀ c ∈ blanks, c.isBlank = true) ∧ version ≠ [] ∧
      (∀ c ∈ version, c.isBlank = false) ∧ ∀ c ∈ rest.head?, c.isBlank = true := by
  constructor
  · intro h
    simp only [firstWord?] at h
    split at h
    · cases h
    next hne =>
    obtain rfl := Option.some.inj h
    refine ⟨t.takeWhile CodePoint.isBlank, (t.dropWhile CodePoint.isBlank).dropWhile (!·.isBlank), ?_,
      fun c hc => List.mem_takeWhile_imp hc, hne, ?_, ?_⟩
    · rw [List.append_assoc, List.takeWhile_append_dropWhile, List.takeWhile_append_dropWhile]
    · intro c hc
      simpa using List.mem_takeWhile_imp hc
    · intro c hc
      simpa using head_dropWhile _ _ c hc
  · rintro ⟨blanks, rest, rfl, hblanks, hne, hword, hrest⟩
    have hhead : ∀ c ∈ (version ++ rest).head?, c.isBlank = false := by
      obtain ⟨d, left, rfl⟩ := List.exists_cons_of_ne_nil hne
      intro c hc
      obtain rfl := Option.some.inj hc
      exact hword d List.mem_cons_self
    have hversion : (version ++ rest).takeWhile (!·.isBlank) = version :=
      (span_append (fun c hc => by simp [hword c hc]) (fun c hc => by simp [hrest c hc])).1
    rw [firstWord?, List.append_assoc, (span_append hblanks hhead).2, hversion]
    exact if_neg hne

theorem firstWord?_eq_none_iff : firstWord? t = none ↔ ∀ c ∈ t, c.isBlank = true := by
  rw [← List.dropWhile_eq_nil_iff]
  simp only [firstWord?, ite_eq_left_iff, reduceCtorEq, imp_false, not_not]
  constructor
  · intro h
    cases hleft : t.dropWhile CodePoint.isBlank with
    | nil => rfl
    | cons c left =>
      -- what is left begins with the code point that stopped the white space
      have hc := head_dropWhile CodePoint.isBlank t c (by rw [hleft]; rfl)
      rw [hleft, List.takeWhile_cons, if_pos (by simp [hc])] at h
      cases h
  · intro h
    rw [h]
    rfl

theorem versionHere?_of_not (h : ¬mark <+: t) : versionHere? t = none := by
  rw [versionHere?, beforeVersion, rests_append, rests_exactly_of_not h]
  rfl

/-- What a word takes of a text is what there is of it before white space. -/
theorem take_rests_word (t : Text) :
    ((word.rests t).head?.map fun rest => t.take (t.length - rest.length)) =
      if t.takeWhile (!·.isBlank) = [] then none else some (t.takeWhile (!·.isBlank)) := by
  rw [word, head_rests_run]
  split
  · rfl
  · have hsplit := List.takeWhile_append_dropWhile (p := (!·.isBlank)) (l := t)
    generalize t.takeWhile (!·.isBlank) = taken at hsplit ⊢
    generalize t.dropWhile (!·.isBlank) = left at hsplit ⊢
    rw [← hsplit, Option.map_some, List.length_append, Nat.add_sub_cancel, List.take_left]

/-- Behind a mark the longest white space is the one that leaves a word, if any does. -/
theorem versionHere?_mark (t : Text) : versionHere? (mark ++ t) = firstWord? t := by
  obtain ⟨others, hrests, hothers⟩ := rests_many CodePoint.isBlank t
  have hnone : others.findSome? (fun start => (word.rests start).head?.map fun rest =>
      start.take (start.length - rest.length)) = none := by
    rw [List.findSome?_eq_none_iff]
    intro left hleft
    rw [take_rests_word, if_pos (takeWhile_of_blank (hothers left hleft))]
  rw [versionHere?, beforeVersion, rests_append, rests_exactly, List.flatMap_singleton, rests_singleton,
    hrests, List.findSome?_cons, hnone, take_rests_word, firstWord?]
  split
  · next heq => exact heq.symm
  · next heq => exact heq.symm

/-! ## The first mark -/

/-- The first mark in a text: what stands before it and what follows it. -/
structure FirstMark (t before after : Text) : Prop where
  eq : t = before ++ mark ++ after
  first : ∀ b a, t = b ++ mark ++ a → before.length ≤ b.length

theorem exists_firstMark (h : mark <:+: t) : ∃ before after, FirstMark t before after := by
  induction t with
  | nil => exact absurd (List.infix_nil.1 h) (by decide)
  | cons c t ih =>
    by_cases hmark : mark <+: c :: t
    · obtain ⟨after, hafter⟩ := hmark
      exact ⟨[], after, hafter.symm, fun b a _ => Nat.zero_le _⟩
    · obtain ⟨before, after, heq, hfirst⟩ := ih ((List.infix_cons_iff.1 h).resolve_left hmark)
      refine ⟨c :: before, after, by rw [heq]; rfl, ?_⟩
      intro b a hb
      cases b with
      | nil => exact absurd ⟨a, hb.symm⟩ hmark
      | cons d b => exact Nat.succ_le_succ (hfirst b a (List.cons.inj hb).2)

/-- Where the first mark stands does not depend on what follows it. -/
theorem FirstMark.of_eq (h : FirstMark t before after) (other : Text) :
    FirstMark (before ++ mark ++ other) before other where
  eq := rfl
  first := by
    intro b a heq
    by_contra hlt
    -- a mark further to the left would end inside the first one, and so stand in front of it in `t` too
    have hprefix : b ++ mark <+: before ++ mark := by
      have hleft : b ++ mark <+: before ++ mark ++ other := ⟨a, heq.symm⟩
      apply List.prefix_of_prefix_length_le hleft (List.prefix_append _ _)
      simp only [List.length_append]
      omega
    obtain ⟨between, hbetween⟩ := hprefix
    have hb := h.first b (between ++ after) (by rw [h.eq, ← hbetween, List.append_assoc])
    exact hlt hb

theorem search_eq_none {here? : Text → Option Text} (h : ∀ s, s <:+ t → here? s = none) :
    search here? t = none := by
  induction t with
  | nil => rfl
  | cons c t ih =>
    rw [search, h _ List.suffix_rfl]
    exact ih fun s hs => h s (hs.trans (List.suffix_cons c t))

theorem version?_of_not (h : ¬mark <:+: t) : version? t = none := by
  apply search_eq_none
  intro s hs
  exact versionHere?_of_not fun hmark => h (List.infix_iff_prefix_suffix.2 ⟨s, hmark, hs⟩)

/-- What is found is the first word behind the first mark, and nothing if there is no word there. -/
theorem version?_of_firstMark (h : FirstMark t before after) : version? t = firstWord? after := by
  induction before generalizing t with
  | nil =>
    obtain ⟨heq, -⟩ := h
    have hcons : t = CodePoint.ofChar 'V' :: (mark.tail ++ after) := heq
    rw [version?, hcons, search, ← hcons, heq, List.nil_append, versionHere?_mark]
    cases hword : firstWord? after with
    | some version => rfl
    | none =>
      -- a second mark would begin with a letter, and behind the first letter of this one there is
      -- none like it
      have hblank := firstWord?_eq_none_iff.1 hword
      apply version?_of_not
      intro hmark
      have hmem : CodePoint.ofChar 'V' ∈ mark.tail ++ after := hmark.subset List.mem_cons_self
      rcases List.mem_append.1 hmem with hmem | hmem
      · exact absurd hmem (by decide)
      · exact absurd (hblank _ hmem) (by decide)
  | cons c before ih =>
    obtain ⟨heq, hfirst⟩ := h
    have hnot : ¬mark <+: t := by
      rintro ⟨a, ha⟩
      exact absurd (hfirst [] a ha.symm) (by simp)
    have htail : FirstMark (before ++ mark ++ after) before after := by
      refine ⟨rfl, fun b a hb => ?_⟩
      have hcons : t = (c :: b) ++ mark ++ a := by
        rw [heq, List.cons_append, List.cons_append, hb]
        rfl
      exact Nat.le_of_succ_le_succ (hfirst (c :: b) a hcons)
    have hcons : t = c :: (before ++ mark ++ after) := heq
    rw [version?, hcons, search, ← hcons, versionHere?_of_not hnot]
    exact ih htail

/-! ## The version -/

/-- The version that a banner names, with what stands around it: the first mark, white space, the
version, which is a word, and then white space again or the end. -/
structure Names (banner before blanks version rest : Text) : Prop where
  mark : FirstMark banner before (blanks ++ version ++ rest)
  blanks : ∀ c ∈ blanks, c.isBlank = true
  nonempty : version ≠ []
  word : ∀ c ∈ version, c.isBlank = false
  ends : ∀ c ∈ rest.head?, c.isBlank = true

theorem version?_eq_some_iff {banner : Text} : version? banner = some version ↔
    ∃ before blanks rest, Names banner before blanks version rest := by
  constructor
  · intro h
    by_cases hmark : mark <:+: banner
    · obtain ⟨before, after, hfirst⟩ := exists_firstMark hmark
      rw [version?_of_firstMark hfirst, firstWord?_eq_some_iff] at h
      obtain ⟨blanks, rest, rfl, hblanks, hne, hword, hends⟩ := h
      exact ⟨before, blanks, rest, hfirst, hblanks, hne, hword, hends⟩
    · rw [version?_of_not hmark] at h
      cases h
  · rintro ⟨before, blanks, rest, h⟩
    rw [version?_of_firstMark h.mark, firstWord?_eq_some_iff]
    exact ⟨blanks, rest, rfl, h.blanks, h.nonempty, h.word, h.ends⟩

/-- No version is found just if there is no mark or only white space behind the first one. -/
theorem version?_eq_none_iff {banner : Text} : version? banner = none ↔
    ¬mark <:+: banner ∨ ∃ before after, FirstMark banner before after ∧ ∀ c ∈ after, c.isBlank = true := by
  constructor
  · intro h
    by_cases hmark : mark <:+: banner
    · obtain ⟨before, after, hfirst⟩ := exists_firstMark hmark
      rw [version?_of_firstMark hfirst, firstWord?_eq_none_iff] at h
      exact .inr ⟨before, after, hfirst, h⟩
    · exact .inl hmark
  · rintro (h | ⟨before, after, hfirst, hblank⟩)
    · exact version?_of_not h
    · rw [version?_of_firstMark hfirst, firstWord?_eq_none_iff]
      exact hblank

/-- What follows a version may be anything that does not go on with it. -/
theorem Names.of_rest {banner : Text} (h : Names banner before blanks version rest) {other : Text}
    (hother : ∀ c ∈ other.head?, c.isBlank = true) :
    Names (before ++ Banner.mark ++ (blanks ++ version ++ other)) before blanks version other where
  mark := h.mark.of_eq _
  blanks := h.blanks
  nonempty := h.nonempty
  word := h.word
  ends := hother

end Banner

namespace Service

variable (service : Service)

/-- A compiler that tells a service its banner. -/
def Hears (compiler : Compiler) (banner : Text) : Prop :=
  ∃ binary, (service.executable compiler).result = .ok binary ∧
    (compiler.banner binary).result = .ok banner

variable {service} in
theorem version_of_hears {compiler : Compiler} {banner : Text} (h : service.Hears compiler banner) :
    (service.version compiler).result = versionIn banner := by
  obtain ⟨binary, hbinary, hbanner⟩ := h
  rw [version_eq, Run.result_andThen_ok hbinary, Run.result_andThen_ok hbanner]
  rfl

theorem versionIn_ok_iff {banner version : Text} :
    versionIn banner = .ok version ↔ Banner.version? banner = some version := by
  rw [versionIn]
  split
  · next h => simp only [h, Except.ok.injEq, Option.some.injEq]
  · next h => simp only [h, reduceCtorEq]

theorem versionIn_error_iff {banner : Text} {failure : Failure} :
    versionIn banner = .error failure ↔ Banner.version? banner = none ∧ failure = .noVersion banner := by
  rw [versionIn]
  split
  · next h => simp only [h, reduceCtorEq, false_and]
  · next h => simp only [h, Except.error.injEq, true_and, eq_comm]

/-- **The version is the first word behind the first mark of the banner.** Without a mark, or with only
white space behind the first one, there is none, and there is no other way to fail. What follows the
word does not matter. -/
theorem version_of_banner {compiler : Compiler} {banner : Text} (h : service.Hears compiler banner) :
    (∀ failure, (service.version compiler).result = .error failure ↔
      failure = .noVersion banner ∧ (¬Banner.mark <:+: banner ∨
        ∃ before after, Banner.FirstMark banner before after ∧ ∀ c ∈ after, c.isBlank = true)) ∧
    (∀ version, (service.version compiler).result = .ok version ↔
      ∃ before blanks rest, Banner.Names banner before blanks version rest) ∧
    (∀ version, (service.version compiler).result = .ok version →
      version ≠ [] ∧ ∀ c ∈ version, c.isBlank = false) ∧
    ∀ before blanks version rest, Banner.Names banner before blanks version rest →
      ∀ other : Text, (∀ c ∈ other.head?, c.isBlank = true) →
        ∀ compiler' : Compiler,
          service.Hears compiler' (before ++ Banner.mark ++ (blanks ++ version ++ other)) →
          (service.version compiler').result = (service.version compiler).result := by
  have hversion (version : Text) : (service.version compiler).result = .ok version ↔
      ∃ before blanks rest, Banner.Names banner before blanks version rest := by
    rw [version_of_hears h, versionIn_ok_iff, Banner.version?_eq_some_iff]
  refine ⟨?_, hversion, ?_, ?_⟩
  · intro failure
    rw [version_of_hears h, versionIn_error_iff, Banner.version?_eq_none_iff, and_comm]
  · intro version hresult
    obtain ⟨_, _, _, hnames⟩ := (hversion version).1 hresult
    exact ⟨hnames.nonempty, hnames.word⟩
  · intro before blanks version rest hnames other hother compiler' hother'
    have hsame := (hnames.of_rest hother)
    rw [(hversion version).2 ⟨before, blanks, rest, hnames⟩, version_of_hears hother', versionIn_ok_iff,
      Banner.version?_eq_some_iff]
    exact ⟨before, blanks, other, hsame⟩

/-- A banner with two marks, the first of them at the end of a line. -/
def twofoldBanner : Text := "Version:\n\t0.8.24 Version: 0.4.11"

def twofoldCompiler : Compiler := Script.compiler ⟨"/usr/bin/solc", none, twofoldBanner, none⟩

/-- The version is the word behind the first of two marks, on the next line. -/
theorem version_of_twofold_banner :
    let service : Service := ⟨none, none, "contract.sol", .strict⟩
    service.Hears twofoldCompiler twofoldBanner ∧
      Banner.Names twofoldBanner [] "\n\t" "0.8.24" " Version: 0.4.11" ∧
      (service.version twofoldCompiler).result = .ok "0.8.24" := by
  intro service
  have hhears : service.Hears twofoldCompiler twofoldBanner := ⟨_, rfl, rfl⟩
  have hnames : Banner.Names twofoldBanner [] "\n\t" "0.8.24" " Version: 0.4.11" :=
    { mark := ⟨by decide, fun b a _ => Nat.zero_le b.length⟩
      blanks := by decide
      nonempty := by decide
      word := by decide
      ends := by decide }
  exact ⟨hhears, hnames, ((service.version_of_banner hhears).2.1 _).2 ⟨_, _, _, hnames⟩⟩

end Service

end SolidityGateway
