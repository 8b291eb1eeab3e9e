import SolidityGateway.Settings
import SolidityGateway.Proofs.Digits
import Mathlib.Data.List.Nodup
import Mathlib.Data.List.TakeWhile
import Mathlib.Tactic.Common

/-!
Settings field by field. A field is read from the variables of the environment that have its name, and
from nothing else (`Field.outcome`); the settings load just if every field does, and otherwise the
errors are those of the fields at fault, in the order of the fields (`load_eq_ok_iff`,
`load_eq_error_iff`). Only the fields in `Field.checked` refuse a text. `loads_field_by_field` says
this without the order in which an environment is gone through, for environments in which no two names
differ in letter case only. All of it holds whatever counts for the length of a number
(`IntegerText.Length`).
-/

namespace SolidityGateway

/-! ## Texts of numbers and truth values -/

namespace CodePoint

theorem isSurrogate_toAsciiLower (c : CodePoint) : c.toAsciiLower.isSurrogate = c.isSurrogate := by
  rw [toAsciiLower]
  split
  · next h =>
    simp only [Bool.and_eq_true, decide_eq_true_eq] at h
    have hval := val_ofNat (n := c.val + 0x20) (by omega)
    rw [isSurrogate, isSurrogate, hval, Bool.eq_iff_iff]
    simp only [Bool.and_eq_true, decide_eq_true_eq]
    omega
  · rfl

theorem isSurrogate_of_isAsciiDigit {c : CodePoint} (h : c.isAsciiDigit = true) :
    c.isSurrogate = false := by
  simp only [isAsciiDigit, isSurrogate, Bool.and_eq_true, decide_eq_true_eq,
    Bool.and_eq_false_iff, decide_eq_false_iff_not] at h ⊢
  omega

end CodePoint

namespace Text

theorem hasSurrogate_toAsciiLower (t : Text) : t.toAsciiLower.hasSurrogate = t.hasSurrogate := by
  rw [hasSurrogate, toAsciiLower, List.any_map]
  exact congrArg t.any (funext CodePoint.isSurrogate_toAsciiLower)

theorem hasSurrogate_ofNat (n : Nat) : (ofNat n).hasSurrogate = false := by
  rw [hasSurrogate, List.any_eq_false]
  intro c hc
  simp [CodePoint.isSurrogate_of_isAsciiDigit (isAsciiDigit_of_mem_ofNat n c hc)]

theorem hasSurrogate_ofInt (n : Int) : (ofInt n).hasSurrogate = false := by
  cases n with
  | ofNat m => exact hasSurrogate_ofNat m
  | negSucc m => exact hasSurrogate_ofNat (m + 1)

end Text

namespace IntegerText

/-- The digits of a number are read as that number, unless there are too many. -/
theorem readNatural_ofNat (limit : Nat) (hlimit : 0 < limit) (n : Nat) :
    readNatural limit (Text.ofNat n) =
      if (Text.ofNat n).length ≤ limit then .ok n else .error .integerTooLarge := by
  have hdigits := Text.isAsciiDigit_of_mem_ofNat n
  have htake : (Text.ofNat n).takeWhile CodePoint.isAsciiDigit = Text.ofNat n :=
    List.takeWhile_eq_self_iff.2 hdigits
  have hdrop : (Text.ofNat n).dropWhile CodePoint.isAsciiDigit = [] :=
    List.dropWhile_eq_nil_iff.2 hdigits
  rcases Nat.eq_zero_or_pos n with rfl | hpos
  · exact (if_pos hlimit).symm
  · obtain ⟨c, rest, hcons, hc⟩ := Text.head_ofNat hpos
    have hvalue := Text.toNat_ofNat n
    rw [readNatural]
    simp only [htake, hdrop]
    rw [hcons] at hvalue ⊢
    simp only [hc, if_false, hvalue, if_true, ← not_le, ite_not]

theorem Length.limit_pos (length : Length) (negative : Bool) : 0 < length.limit negative := by
  cases length <;> cases negative <;> decide

/-- Fewer digits than the limit are not too many, whatever counts. -/
theorem Length.le_limit {length : Length} {n : Nat} (h : n < Text.digitLimit) (negative : Bool) :
    n ≤ length.limit negative := by
  cases length with
  | digits => exact Nat.le_of_lt h
  | signAndDigits =>
    cases negative with
    | false => exact Nat.le_of_lt h
    | true => exact Nat.le_sub_one_of_lt h

/-- **A written integer is read back just if it has not too many digits.** -/
theorem read_ofInt (length : Length) (n : Int) : read length (Text.ofInt n) =
    if (Text.ofNat n.natAbs).length ≤ length.limit (decide (n < 0)) then .ok n
    else .error .integerTooLarge := by
  cases n with
  | ofNat m =>
    obtain ⟨c, rest, hcons⟩ := List.exists_cons_of_ne_nil (Text.ofNat_ne_nil m)
    have hminus : c ≠ '-' := by
      rintro rfl
      exact absurd (Text.isAsciiDigit_of_mem_ofNat m _ (by rw [hcons]; exact List.mem_cons_self))
        (by decide)
    have hread := readNatural_ofNat _ (length.limit_pos false) m
    show read length (Text.ofNat m) = if (Text.ofNat m).length ≤ length.limit false then _ else _
    rw [hcons] at hread ⊢
    rw [read, if_neg hminus, hread]
    split <;> rfl
  | negSucc m =>
    have hread := readNatural_ofNat _ (length.limit_pos true) (m + 1)
    rw [decide_eq_true (Int.negSucc_lt_zero m)]
    show read length (CodePoint.ofChar '-' :: Text.ofNat (m + 1)) =
      if (Text.ofNat (m + 1)).length ≤ length.limit true then _ else _
    rw [read, if_pos rfl, hread]
    split <;> rfl

theorem integer_ofInt {n : Int} (h : (Text.ofNat n.natAbs).length < Text.digitLimit) (length : Length) :
    integer length (Text.ofInt n) = .ok n := by
  rw [integer, read_ofInt, if_pos (Length.le_limit h _)]

end IntegerText

namespace Scalar

theorem integerOfText_ofInt {n : Int} (h : (Text.ofNat n.natAbs).length < Text.digitLimit)
    (length : IntegerText.Length) : integerOfText length (Text.ofInt n) = .ok n := by
  rw [integerOfText, Text.hasSurrogate_ofInt, if_neg Bool.false_ne_true, IntegerText.integer_ofInt h]

def words (b : Bool) : List Text := if b then trueWords else falseWords

theorem hasSurrogate_of_mem_words : ∀ b, ∀ t ∈ words b, Text.hasSurrogate t = false := by
  decide

theorem notMem_falseWords : ∀ t ∈ trueWords, t ∉ falseWords := by
  decide

/-- **A truth value is read from its words**, in any case of letters, and from nothing else. -/
theorem truthOfText_eq_ok_iff {t : Text} {b : Bool} :
    truthOfText t = .ok b ↔ t.toAsciiLower ∈ words b := by
  constructor
  · intro h
    rw [truthOfText] at h
    split at h
    · cases h
    · split at h
      · next hword => cases h; exact hword
      · split at h
        · next hword => cases h; exact hword
        · cases h
  · intro h
    have hfree := hasSurrogate_of_mem_words b _ h
    rw [Text.hasSurrogate_toAsciiLower] at hfree
    rw [truthOfText, hfree, if_neg Bool.false_ne_true]
    cases b with
    | false => exact if_pos h
    | true => rw [if_neg (notMem_falseWords _ h)]; exact if_pos h

end Scalar

namespace Settings

/-! ## Fields -/

/-- The fields of the settings. -/
inductive Field
  | host
  | portNumber
  | sourceName
  | binary
  | release
  | policy
  | limit
deriving DecidableEq

namespace Field

def all : List Field := [host, portNumber, sourceName, binary, release, policy, limit]

/-- The fields that do not accept every text. -/
def checked : List Field := [portNumber, policy, limit]

def name : Field → Text
  | host => "host"
  | portNumber => "port"
  | sourceName => "source_name"
  | binary => "solc_binary"
  | release => "solc_version"
  | policy => "warnings_as_errors"
  | limit => "max_concurrent_compiles"

/-- What a field holds. -/
abbrev Value : Field → Type
  | host | sourceName => Text
  | portNumber => Int
  | binary | release => Option Text
  | policy => Policy
  | limit => Option Int

/-- What a field holds if nothing is given for it. -/
def default : (f : Field) → f.Value
  | host => ("0.0.0.0" : Text)
  | portNumber => (4000 : Int)
  | sourceName => ("contract.sol" : Text)
  | binary => (none : Option Text)
  | release => (none : Option Text)
  | policy => Policy.strict
  | limit => (none : Option Int)

/-- How a field reads what it is given. -/
def reader (length : IntegerText.Length) : (f : Field) → Json → Except Complaint f.Value
  | host => Scalar.text
  | portNumber => Scalar.integer length
  | sourceName => Scalar.text
  | binary => Scalar.optional Scalar.path
  | release => Scalar.optional Scalar.text
  | policy => Settings.policy
  | limit => Scalar.optional (Scalar.integer length)

def get (settings : Settings) : (f : Field) → f.Value
  | host => settings.host
  | portNumber => settings.portNumber
  | sourceName => settings.service.sourceName
  | binary => settings.service.binary
  | release => settings.service.release
  | policy => settings.service.policy
  | limit => settings.limit

section
variable (length : IntegerText.Length) (f : Field) (environment : List (Text × Text))

def read (t : Text) : Except Complaint f.Value := f.reader length (.text t)

/-- What a field reads the last variable for it as, if there is one. -/
def outcome : Except Complaint f.Value :=
  match variableFor environment f.name with
  | none => .ok f.default
  | some t => f.read length t

/-- The same, with the place of a complaint. -/
def result : Except FieldError f.Value :=
  (f.outcome length environment).mapError fun complaint => ⟨[f.name], complaint⟩

/-- The error of a field, if it is at fault. -/
def faults : List FieldError := errorOf (f.result length environment)

end

variable {length : IntegerText.Length} {environment : List (Text × Text)}

theorem mem_all (f : Field) : f ∈ all := by
  cases f <;> decide

theorem nodup_names : (all.map name).Nodup := by
  decide

theorem name_injective {f g : Field} (h : f.name = g.name) : f = g :=
  List.inj_on_of_nodup_map nodup_names (mem_all f) (mem_all g) h

/-- The checked fields are those that refuse some text; the empty one is such. -/
theorem mem_checked_iff {f : Field} : f ∈ checked ↔ ∃ t, ∀ v, f.read length t ≠ .ok v := by
  constructor
  · intro h
    refine ⟨[], ?_⟩
    cases f with
    | host | sourceName | binary | release => exact absurd h (by decide)
    | portNumber | policy | limit =>
      intro v hv
      cases hv
  · rintro ⟨t, ht⟩
    cases f with
    | host | sourceName | binary | release => exact absurd rfl (ht _)
    | portNumber | policy | limit => decide

theorem field_eq (length : IntegerText.Length) (f : Field) (environment : List (Text × Text)) :
    field (given environment []) f.name f.default (f.reader length) = f.result length environment := by
  rw [field, given, argumentFor, List.find?_nil, Option.map_none, result, outcome]
  cases variableFor environment f.name <;> rfl

theorem result_eq_ok_iff {f : Field} {v : f.Value} :
    f.result length environment = .ok v ↔ f.outcome length environment = .ok v := by
  rw [result]
  cases f.outcome length environment with
  | ok w => simp [Except.mapError]
  | error complaint => exact iff_of_false nofun nofun

theorem faults_congr {other : List (Text × Text)} {f : Field}
    (h : f.outcome length environment = f.outcome length other) :
    f.faults length environment = f.faults length other := by
  rw [faults, result, h]
  rfl

theorem faults_of_ok {f : Field} {v : f.Value} (h : f.outcome length environment = .ok v) :
    f.faults length environment = [] := by
  rw [faults, result, h]
  rfl

theorem faults_of_error {f : Field} {complaint : Complaint}
    (h : f.outcome length environment = .error complaint) :
    f.faults length environment = [⟨[f.name], complaint⟩] := by
  rw [faults, result, h]
  rfl

theorem filter_faults (f g : Field) :
    ((g.faults length environment).filter fun e => e.place = [f.name]) =
      if g = f then f.faults length environment else [] := by
  cases hg : g.outcome length environment with
  | ok v =>
    rw [faults_of_ok hg]
    split
    · next heq => rw [← heq, faults_of_ok hg]; rfl
    · rfl
  | error complaint =>
    rw [faults_of_error hg, List.filter_singleton]
    split
    · next heq =>
      subst heq
      rw [faults_of_error hg]
      simp
    · next hne =>
      have hname : ¬g.name = f.name := fun h => hne (name_injective h)
      simp [hname]

end Field

variable {length : IntegerText.Length} {environment : List (Text × Text)}

/-! ## Loading -/

/-- What loading can come to: every field is read, or some are at fault. -/
theorem load_cases (length : IntegerText.Length) (environment : List (Text × Text)) :
    (∃ settings, loadBy length environment [] = .ok settings ∧
      ∀ f : Field, f.outcome length environment = .ok (f.get settings)) ∨
    (loadBy length environment [] = .error (Field.all.flatMap (·.faults length environment)) ∧
      ∃ f : Field, ∀ v, f.outcome length environment ≠ .ok v) := by
  have hload : loadBy length environment [] = loadNamed length environment [] := rfl
  have hhost := Field.field_eq length .host environment
  have hport := Field.field_eq length .portNumber environment
  have hname := Field.field_eq length .sourceName environment
  have hbinary := Field.field_eq length .binary environment
  have hrelease := Field.field_eq length .release environment
  have hpolicy := Field.field_eq length .policy environment
  have hlimit := Field.field_eq length .limit environment
  simp only [Field.name, Field.default, Field.reader] at hhost hport hname hbinary hrelease hpolicy hlimit
  rw [hload, loadNamed]
  simp only [hhost, hport, hname, hbinary, hrelease, hpolicy, hlimit]
  split
  · next h1 h2 h3 h4 h5 h6 h7 _ =>
    refine .inl ⟨_, rfl, fun f => Field.result_eq_ok_iff.1 ?_⟩
    cases f with
    | host => exact h1
    | portNumber => exact h2
    | sourceName => exact h3
    | binary => exact h4
    | release => exact h5
    | policy => exact h6
    | limit => exact h7
  · next hnone =>
    refine .inr ⟨?_, ?_⟩
    · simp only [Field.all, Field.faults, List.flatMap_cons, List.flatMap_nil, List.append_assoc]
      rfl
    · by_contra! hall
      have hread (f : Field) : ∃ v, f.result length environment = .ok v :=
        (hall f).imp fun _ => Field.result_eq_ok_iff.2
      obtain ⟨_, h1⟩ := hread .host
      obtain ⟨_, h2⟩ := hread .portNumber
      obtain ⟨_, h3⟩ := hread .sourceName
      obtain ⟨_, h4⟩ := hread .binary
      obtain ⟨_, h5⟩ := hread .release
      obtain ⟨_, h6⟩ := hread .policy
      obtain ⟨_, h7⟩ := hread .limit
      exact hnone _ _ _ _ _ _ _ h1 h2 h3 h4 h5 h6 h7 rfl

theorem ext_get {settings settings' : Settings} (h : ∀ f : Field, f.get settings = f.get settings') :
    settings = settings' := by
  obtain ⟨host, portNumber, ⟨binary, release, sourceName, policy⟩, limit⟩ := settings
  obtain ⟨host', portNumber', ⟨binary', release', sourceName', policy'⟩, limit'⟩ := settings'
  have h1 : host = host' := h .host
  have h2 : portNumber = portNumber' := h .portNumber
  have h3 : sourceName = sourceName' := h .sourceName
  have h4 : binary = binary' := h .binary
  have h5 : release = release' := h .release
  have h6 : policy = policy' := h .policy
  have h7 : limit = limit' := h .limit
  subst h1 h2 h3 h4 h5 h6 h7
  rfl

/-- **The settings load just if every field does**, and hold what the fields read. -/
theorem load_eq_ok_iff {settings : Settings} : loadBy length environment [] = .ok settings ↔
    ∀ f : Field, f.outcome length environment = .ok (f.get settings) := by
  obtain ⟨loaded, hload, hread⟩ | ⟨hload, f, hfault⟩ := load_cases length environment
  · rw [hload, Except.ok.injEq]
    constructor
    · rintro rfl
      exact hread
    · intro h
      exact ext_get fun f => Except.ok.inj ((hread f).symm.trans (h f))
  · rw [hload]
    exact iff_of_false nofun fun h => hfault _ (h f)

/-- **The errors are those of the fields at fault**, in the order of the fields. -/
theorem load_eq_error_iff {errors : List FieldError} : loadBy length environment [] = .error errors ↔
    errors = Field.all.flatMap (·.faults length environment) ∧
      ∃ f : Field, ∀ v, f.outcome length environment ≠ .ok v := by
  obtain ⟨loaded, hload, hread⟩ | ⟨hload, hfault⟩ := load_cases length environment
  · rw [hload]
    exact iff_of_false nofun fun ⟨_, f, h⟩ => h _ (hread f)
  · rw [hload, Except.error.injEq, eq_comm]
    exact (and_iff_left hfault).symm

namespace Field

/-- The errors with the name of a field as their place. -/
def errorsIn (f : Field) : Except (List FieldError) Settings → List FieldError
  | .ok _ => []
  | .error errors => errors.filter fun e => e.place = [f.name]

/-- **Loading tells of a field what the field tells itself.** -/
theorem errorsIn_load (length : IntegerText.Length) (f : Field) (environment : List (Text × Text)) :
    f.errorsIn (loadBy length environment []) = f.faults length environment := by
  obtain ⟨settings, hload, hread⟩ | ⟨hload, -⟩ := load_cases length environment
  · rw [hload, faults_of_ok (hread f)]
    rfl
  · rw [hload, errorsIn, List.filter_flatMap]
    simp only [filter_faults]
    cases f <;> simp [all]

end Field

/-! ## Environments without ambiguity -/

/-- No two variables have names that differ in letter case only. -/
def Unambiguous (environment : List (Text × Text)) : Prop :=
  (environment.map fun v => v.1.toAsciiLower).Nodup

instance (environment : List (Text × Text)) : Decidable (Unambiguous environment) :=
  inferInstanceAs (Decidable (List.Nodup _))

namespace Field

/-- An environment gives a field a text: a variable with the name of the field holds it. -/
def IsGiven (f : Field) (environment : List (Text × Text)) (t : Text) : Prop :=
  ∃ v ∈ environment, v.1.toAsciiLower = variableStart ++ f.name ∧ v.2 = t

section
variable (length : IntegerText.Length) (f : Field) (environment : List (Text × Text))

/-- A field is given a text that it does not accept. -/
def IsFaulty : Prop := ∃ t, f.IsGiven environment t ∧ ∀ v, f.read length t ≠ .ok v

/-- A value is what a field reads the text that it is given as, or the default if it is given none. -/
def Yields (v : f.Value) : Prop :=
  (∃ t, f.IsGiven environment t ∧ f.read length t = .ok v) ∨
    (∀ t, ¬f.IsGiven environment t) ∧ v = f.default

/-- An error has a field as its place and says what the field has against the text that it is given. -/
def Tells (e : FieldError) : Prop :=
  e.place = [f.name] ∧ ∃ t, f.IsGiven environment t ∧ f.read length t = .error e.complaint

end

theorem variableFor_eq_some_iff (h : Unambiguous environment) {f : Field} {t : Text} :
    variableFor environment f.name = some t ↔ f.IsGiven environment t := by
  rw [variableFor, Option.map_eq_some_iff]
  constructor
  · rintro ⟨v, hfind, ht⟩
    exact ⟨v, List.mem_reverse.1 (List.mem_of_find?_eq_some hfind),
      by simpa using List.find?_some hfind, ht⟩
  · rintro ⟨v, hmem, hname, ht⟩
    refine ⟨v, ?_, ht⟩
    have hsome : (environment.reverse.find? fun w => w.1.toAsciiLower = variableStart ++ f.name).isSome :=
      List.find?_isSome.2 ⟨v, List.mem_reverse.2 hmem, by simpa using hname⟩
    obtain ⟨w, hfind⟩ := Option.isSome_iff_exists.1 hsome
    have hw : w.1.toAsciiLower = variableStart ++ f.name := by simpa using List.find?_some hfind
    -- no other variable has this name, so the last is the only one
    have heq : w = v := List.inj_on_of_nodup_map h
      (List.mem_reverse.1 (List.mem_of_find?_eq_some hfind)) hmem (hw.trans hname.symm)
    rw [hfind, heq]

theorem variableFor_eq_none_iff (h : Unambiguous environment) {f : Field} :
    variableFor environment f.name = none ↔ ∀ t, ¬f.IsGiven environment t := by
  simp only [Option.eq_none_iff_forall_ne_some, ne_eq, variableFor_eq_some_iff h]

theorem outcome_of_isGiven (h : Unambiguous environment) {f : Field} {t : Text}
    (ht : f.IsGiven environment t) : f.outcome length environment = f.read length t := by
  rw [outcome, (variableFor_eq_some_iff h).2 ht]

theorem outcome_of_not_isGiven (h : Unambiguous environment) {f : Field}
    (ht : ∀ t, ¬f.IsGiven environment t) : f.outcome length environment = .ok f.default := by
  rw [outcome, (variableFor_eq_none_iff h).2 ht]

theorem outcome_cases (h : Unambiguous environment) (f : Field) :
    (∃ t, f.IsGiven environment t ∧ f.outcome length environment = f.read length t) ∨
      (∀ t, ¬f.IsGiven environment t) ∧ f.outcome length environment = .ok f.default := by
  by_cases hgiven : ∃ t, f.IsGiven environment t
  · obtain ⟨t, ht⟩ := hgiven
    exact .inl ⟨t, ht, outcome_of_isGiven h ht⟩
  · have hnone := not_exists.1 hgiven
    exact .inr ⟨hnone, outcome_of_not_isGiven h hnone⟩

theorem outcome_eq_ok_iff (h : Unambiguous environment) {f : Field} {v : f.Value} :
    f.outcome length environment = .ok v ↔ f.Yields length environment v := by
  constructor
  · intro hv
    obtain ⟨t, ht, hout⟩ | ⟨hnone, hout⟩ := outcome_cases h f
    · exact .inl ⟨t, ht, hout.symm.trans hv⟩
    · exact .inr ⟨hnone, Except.ok.inj (hv.symm.trans hout)⟩
  · rintro (⟨t, ht, hv⟩ | ⟨hnone, rfl⟩)
    · rw [outcome_of_isGiven h ht, hv]
    · exact outcome_of_not_isGiven h hnone

theorem isFaulty_iff (h : Unambiguous environment) {f : Field} :
    f.IsFaulty length environment ↔ ∀ v, f.outcome length environment ≠ .ok v := by
  constructor
  · rintro ⟨t, ht, hread⟩ v hv
    exact hread v ((outcome_of_isGiven h ht).symm.trans hv)
  · intro hrefused
    obtain ⟨t, ht, hout⟩ | ⟨-, hout⟩ := outcome_cases h f
    · exact ⟨t, ht, fun v hv => hrefused v (hout.trans hv)⟩
    · exact absurd hout (hrefused _)

theorem mem_checked_of_isFaulty {f : Field} (h : f.IsFaulty length environment) : f ∈ checked :=
  mem_checked_iff.2 (h.imp fun _ ht => ht.2)

theorem faults_cases (h : Unambiguous environment) (f : Field) :
    (¬f.IsFaulty length environment ∧ f.faults length environment = []) ∨
      f.IsFaulty length environment ∧
        ∃ e, f.faults length environment = [e] ∧ f.Tells length environment e := by
  cases hout : f.outcome length environment with
  | ok v => exact .inl ⟨fun hfaulty => (isFaulty_iff h).1 hfaulty v hout, faults_of_ok hout⟩
  | error complaint =>
    have hfaulty : f.IsFaulty length environment := by
      rw [isFaulty_iff h, hout]
      exact nofun
    have ⟨t, ht, _⟩ := hfaulty
    have hread : f.read length t = .error complaint := (outcome_of_isGiven h ht).symm.trans hout
    exact .inr ⟨hfaulty, _, faults_of_error hout, rfl, t, ht, hread⟩

open Classical in
/-- The errors of fields are told by those at fault, each by its own. -/
theorem tells_flatMap (length : IntegerText.Length) (h : Unambiguous environment) (fields : List Field) :
    List.Forall₂ (·.Tells length environment) (fields.filter (·.IsFaulty length environment))
      (fields.flatMap (·.faults length environment)) := by
  induction fields with
  | nil => exact .nil
  | cons f fields ih =>
    rw [List.flatMap_cons]
    obtain ⟨hsound, hnone⟩ | ⟨hfaulty, e, hone, htells⟩ := faults_cases h f
    · rwa [List.filter_cons_of_neg (by simpa using hsound), hnone]
    · rw [List.filter_cons_of_pos (by simpa using hfaulty), hone]
      exact .cons htells ih

theorem filter_all (p : Field → Bool) (h : ∀ f, p f → f ∈ checked) :
    all.filter p = checked.filter p := by
  have hchecked : checked = all.filter (· ∈ checked) := rfl
  rw [hchecked, List.filter_filter]
  refine List.filter_congr fun f _ => ?_
  cases hp : p f with
  | false => rfl
  | true => exact (decide_eq_true (h f hp)).symm

open Classical in
theorem tells_all (h : Unambiguous environment) : ∃ fields : List Field, fields.Sublist checked ∧
    (∀ f, f ∈ fields ↔ f.IsFaulty length environment) ∧
      List.Forall₂ (·.Tells length environment) fields (all.flatMap (·.faults length environment)) := by
  have htells := tells_flatMap length h all
  rw [filter_all _ fun f hf => mem_checked_of_isFaulty (of_decide_eq_true hf)] at htells
  refine ⟨_, List.filter_sublist, fun f => ?_, htells⟩
  rw [List.mem_filter, decide_eq_true_iff]
  exact and_iff_right_of_imp mem_checked_of_isFaulty

theorem outcome_congr (length : IntegerText.Length) {other : List (Text × Text)}
    (h : Unambiguous environment) (h' : Unambiguous other) {f : Field}
    (hsame : ∀ t, f.IsGiven environment t ↔ f.IsGiven other t) :
    f.outcome length environment = f.outcome length other := by
  obtain ⟨t, ht, hout⟩ | ⟨hnone, hout⟩ := outcome_cases h f
  · rw [hout, outcome_of_isGiven h' ((hsame t).1 ht)]
  · rw [hout, outcome_of_not_isGiven h' fun t ht => hnone t ((hsame t).2 ht)]

/-! ## What the fields read -/

theorem policy_read_iff {t : Text} {b : Bool} :
    policy.read length t = .ok (if b then .strict else .relaxed) ↔ Scalar.truthOfText t = .ok b := by
  have hread : policy.read length t =
      (Scalar.truthOfText t).map fun strict => if strict then .strict else .relaxed := rfl
  rw [hread]
  cases Scalar.truthOfText t with
  | ok strict => cases strict <;> cases b <;> simp [Except.map]
  | error complaint => exact iff_of_false nofun nofun

/-- What the fields read texts as. -/
structure Readings (length : IntegerText.Length) : Prop where
  /-- The words for false, in any case of letters, let warnings pass. -/
  relaxed (t : Text) : policy.read length t = .ok .relaxed ↔
    t.toAsciiLower ∈ (["0", "off", "f", "false", "n", "no"] : List Text)
  /-- The words for true, in any case of letters, do not. -/
  strict (t : Text) : policy.read length t = .ok .strict ↔
    t.toAsciiLower ∈ (["1", "on", "t", "true", "y", "yes"] : List Text)
  /-- A written integer is read back. -/
  portNumber (n : Int) (h : (Text.ofNat n.natAbs).length < Text.digitLimit) :
    portNumber.read length (Text.ofInt n) = .ok n
  limit (n : Int) (h : (Text.ofNat n.natAbs).length < Text.digitLimit) :
    limit.read length (Text.ofInt n) = .ok (some n)
  /-- Other texts are kept, and a path in its normal form. -/
  host (t : Text) : host.read length t = .ok t
  sourceName (t : Text) : sourceName.read length t = .ok t
  release (t : Text) : release.read length t = .ok (some t)
  binary (t : Text) : binary.read length t = .ok (some (Path.normal t))

theorem readings (length : IntegerText.Length) : Readings length where
  relaxed _ := policy_read_iff (b := false) |>.trans Scalar.truthOfText_eq_ok_iff
  strict _ := policy_read_iff (b := true) |>.trans Scalar.truthOfText_eq_ok_iff
  portNumber n h := Scalar.integerOfText_ofInt h length
  limit n h := by
    show (Scalar.integerOfText length (Text.ofInt n)).map some = _
    rw [Scalar.integerOfText_ofInt h]
    rfl
  host _ := rfl
  sourceName _ := rfl
  release _ := rfl
  binary _ := rfl

end Field

/-! ## Field by field -/

/-- An environment is read field by field, by what counts for the length of a number. -/
structure FieldByField (length : IntegerText.Length) (environment : List (Text × Text)) : Prop where
  /-- The settings do not load just if a field is given a text that it does not accept. -/
  fails : (∃ errors, loadBy length environment [] = .error errors) ↔
    ∃ f ∈ Field.checked, f.IsFaulty length environment
  /-- The errors are those of the fields at fault, one of each, in order. -/
  tells (errors : List FieldError) (h : loadBy length environment [] = .error errors) :
    ∃ fields : List Field, fields.Sublist Field.checked ∧
      (∀ f, f ∈ fields ↔ f.IsFaulty length environment) ∧
      List.Forall₂ (·.Tells length environment) fields errors
  /-- Every field holds what it reads what it is given as. -/
  yields (settings : Settings) : loadBy length environment [] = .ok settings ↔
    ∀ f : Field, f.Yields length environment (f.get settings)
  /-- A change to other variables changes neither the error of a field nor what it holds. -/
  separate (other : List (Text × Text)) (h : Unambiguous other) (f : Field)
    (hsame : ∀ t, f.IsGiven environment t ↔ f.IsGiven other t) :
    f.errorsIn (loadBy length environment []) = f.errorsIn (loadBy length other []) ∧
      ∀ settings settings', loadBy length environment [] = .ok settings →
        loadBy length other [] = .ok settings' → f.get settings = f.get settings'

/-- **Settings are loaded field by field**, from the variables of an environment without ambiguity, and
whatever counts for the length of a number. -/
theorem loads_field_by_field (length : IntegerText.Length) (h : Unambiguous environment) :
    FieldByField length environment ∧ Field.Readings length := by
  refine ⟨{ fails := ?_, tells := ?_, yields := ?_, separate := ?_ }, Field.readings length⟩
  · constructor
    · rintro ⟨errors, herrors⟩
      obtain ⟨-, f, hf⟩ := load_eq_error_iff.1 herrors
      have hfaulty := (Field.isFaulty_iff h).2 hf
      exact ⟨f, Field.mem_checked_of_isFaulty hfaulty, hfaulty⟩
    · rintro ⟨f, -, hfaulty⟩
      exact ⟨_, load_eq_error_iff.2 ⟨rfl, f, (Field.isFaulty_iff h).1 hfaulty⟩⟩
  · intro errors herrors
    obtain ⟨rfl, -⟩ := load_eq_error_iff.1 herrors
    exact Field.tells_all h
  · intro settings
    rw [load_eq_ok_iff]
    exact forall_congr' fun f => Field.outcome_eq_ok_iff h
  · intro other h' f hsame
    have hout := Field.outcome_congr length h h' hsame
    refine ⟨?_, ?_⟩
    · rw [Field.errorsIn_load, Field.errorsIn_load, Field.faults_congr hout]
    · intro settings settings' hload hload'
      have hread := load_eq_ok_iff.1 hload f
      have hread' := load_eq_ok_iff.1 hload' f
      exact Except.ok.inj (hread.symm.trans (hout.trans hread'))

/-- Variables with names in different cases of letters, of which two hold no number. -/
def mistyped : List (Text × Text) :=
  [("HOME", "/root"), ("Solc_Server_Max_Concurrent_Compiles", " "),
    ("SOLC_SERVER_WARNINGS_AS_ERRORS", "No"), ("solc_server_port", "1_0.5")]

theorem loads_field_by_field_mistyped :
    Unambiguous mistyped ∧ FieldByField .digits mistyped ∧ Field.Readings .digits ∧
      load mistyped [] = .error
        [⟨["port"], .notIntegerText⟩, ⟨["max_concurrent_compiles"], .notIntegerText⟩] := by
  have h : Unambiguous mistyped := by decide +kernel
  have hport : Field.portNumber.IsGiven mistyped "1_0.5" :=
    ⟨_, List.mem_of_getLast? rfl, by decide +kernel, rfl⟩
  have hfaulty : Field.portNumber.IsFaulty .digits mistyped := ⟨_, hport, nofun⟩
  obtain ⟨hfields, hreadings⟩ := loads_field_by_field .digits h
  obtain ⟨errors, hload⟩ := hfields.fails.2 ⟨_, by decide, hfaulty⟩
  have herrors := (load_eq_error_iff.1 hload).1
  refine ⟨h, hfields, hreadings, hload.trans (congrArg _ (herrors.trans ?_))⟩
  decide +kernel

end Settings

end SolidityGateway
