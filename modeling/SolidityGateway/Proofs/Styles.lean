import SolidityGateway.Proofs.RoundTrip
import SolidityGateway.Proofs.FloatTexts

/-!
The three styles, read back. What the compiler is given comes back with its pairs joined, a refusal
comes back as it is, and a result comes back with its names' surrogates replaced. What the compiler is
given is printable ASCII throughout.
-/

namespace SolidityGateway

namespace Json

theorem readBack_ascii : Style.ascii.ReadBack Layout.isWritable Encoding.joinHalves Encoding.joinHalves where
  comma := ⟨[CodePoint.ofChar ' '], rfl, by decide⟩
  colon := ⟨[CodePoint.ofChar ' '], rfl, by decide⟩
  text := readText_ascii
  name := readText_ascii
  numberHead _ := Layout.write_head Layout.plain
  number _ h _ := Layout.readScalar_write Layout.plain h

theorem readBack_error : Style.error.ReadBack Layout.isWritable id id where
  comma := ⟨[], rfl, by decide⟩
  colon := ⟨[], rfl, by decide⟩
  text := readText_plain
  name := readText_plain
  numberHead _ := Layout.write_head Layout.plain
  number _ h _ := Layout.readScalar_write Layout.plain h

theorem readBack_artifacts : Style.artifacts.ReadBack Layout.isWritable id Text.replaceSurrogates where
  comma := ⟨[], rfl, by decide⟩
  colon := ⟨[], rfl, by decide⟩
  text := readText_plain
  name := readText_replaced
  numberHead _ := Layout.write_head Layout.compact
  number _ h _ := Layout.readScalar_write Layout.compact h

/-- Whether no text and no name of a value holds a surrogate. -/
def surrogateFree (v : Json) : Bool :=
  v.all (fun | text t => !t.hasSurrogate | _ => true) (fun k => !k.hasSurrogate)

/-- Changes that only surrogates undergo leave a value without them as it is. -/
theorem retext_of_surrogateFree {onText onName : Text → Text} {v : Json} (hv : v.distinct = true)
    (hfree : v.surrogateFree = true) (hText : ∀ t : Text, t.hasSurrogate = false → onText t = t)
    (hName : ∀ k : Text, k.hasSurrogate = false → onName k = k) : v.retext onText onName = v := by
  rw [retext_eq_self_iff _ _ v hv]
  refine all_mono ?_ ?_ v hfree
  · intro w
    cases w <;> simp +contextual [hText]
  · simp +contextual [hName]

theorem retext_id {v : Json} (hv : v.distinct = true) : v.retext id id = v := by
  rw [retext_eq_self_iff _ _ v hv]
  induction v using induct with
  | array items ih =>
    exact (all_array _ _ items).2 fun v hv' => ih v hv' ((distinct_array items).1 hv v hv')
  | object members ih =>
    refine (all_object _ _ members).2 fun m hm => ⟨by simp, ih m hm ?_⟩
    exact ((distinct_object members).1 hv).2 m hm
  | _ => simp [keepsTexts, all]

theorem joinHalves_of_hasSurrogate {t : Text} (h : t.hasSurrogate = false) : Encoding.joinHalves t = t :=
  (Encoding.joinHalves_eq_self_iff t).2 (Text.holdsPair_of_hasSurrogate t h)

section
variable {v : Json} (hd : v.distinct = true) (hr : v.readable Layout.isWritable = true)
  (hh : v.height ≤ depthLimit)
include hd hr hh

/-- What the compiler is given is read as it was, where no surrogate is in it. -/
theorem parse_write_ascii (hfree : v.surrogateFree = true) : parse (write .ascii v) = .ok v := by
  rw [parse_write readBack_ascii hr hh, retext_of_surrogateFree hd hfree] <;>
    exact fun _ => joinHalves_of_hasSurrogate

theorem parse_write_error : parse (write .error v) = .ok v := by
  rw [parse_write readBack_error hr hh, retext_id hd]

theorem parse_write_artifacts (hfree : v.surrogateFree = true) : parse (write .artifacts v) = .ok v := by
  rw [parse_write readBack_artifacts hr hh, retext_of_surrogateFree hd hfree]
  · exact fun _ _ => rfl
  · exact fun _ => Text.replaceSurrogates_of_hasSurrogate

end

end Json

/-! ## Printable texts -/

def CodePoint.isAsciiPrintable (c : CodePoint) : Bool := 0x20 ≤ c.val && c.val ≤ 0x7E

theorem CodePoint.isAsciiPrintable_digit {c : CodePoint} (h : c.isAsciiDigit = true) :
    c.isAsciiPrintable = true := by
  simp only [isAsciiDigit, isAsciiPrintable, Bool.and_eq_true, decide_eq_true_eq] at h ⊢
  omega

def Text.isAsciiPrintable (t : Text) : Bool := t.all CodePoint.isAsciiPrintable

namespace Text

@[simp] theorem isAsciiPrintable_nil : isAsciiPrintable [] = true := rfl

@[simp] theorem isAsciiPrintable_cons (c : CodePoint) (t : Text) :
    isAsciiPrintable (c :: t) = (c.isAsciiPrintable && isAsciiPrintable t) := List.all_cons

@[simp] theorem isAsciiPrintable_append (t u : Text) :
    isAsciiPrintable (t ++ u) = (isAsciiPrintable t && isAsciiPrintable u) := List.all_append

theorem isAsciiPrintable_digits {t : Text} (h : ∀ c ∈ t, c.isAsciiDigit = true) :
    t.isAsciiPrintable = true := by
  apply List.all_eq_true.2
  intro c hc
  exact CodePoint.isAsciiPrintable_digit (h c hc)

theorem isAsciiPrintable_ofInt (n : Int) : (ofInt n).isAsciiPrintable = true := by
  cases n with
  | ofNat n => exact isAsciiPrintable_digits (isAsciiDigit_of_mem_ofNat n)
  | negSucc n =>
    have := isAsciiPrintable_digits (isAsciiDigit_of_mem_ofNat (n + 1))
    simp [ofInt, this, CodePoint.isAsciiPrintable, CodePoint.ofChar]

theorem isAsciiPrintable_hex (width n : Nat) : (hex width n).isAsciiPrintable = true := by
  have hdigit : ∀ m : Fin 16, (digit m).isAsciiPrintable = true := by decide
  induction width generalizing n with
  | zero => rfl
  | succ width ih =>
    have := hdigit ⟨n % 16, Nat.mod_lt _ (by omega)⟩
    simp only at this
    simp [hex, ih, this]

end Text

namespace Json

theorem Numeral.isAsciiPrintable_text {n : Numeral} (h : n.WellFormed) :
    n.text.isAsciiPrintable = true := by
  have hwhole := Text.isAsciiPrintable_digits (isAsciiDigit_of_isWhole h.whole)
  have hfraction := Text.isAsciiPrintable_digits h.fraction
  have hpoint : (fractionText n.fraction).isAsciiPrintable = true := by
    unfold fractionText
    split
    · rfl
    · exact (Bool.and_eq_true_iff.2 ⟨rfl, hfraction⟩)
  have hexponent : (exponentText n.exponent).isAsciiPrintable = true := by
    have hexp := h.exponent
    cases he : n.exponent with
    | none => rfl
    | some e =>
      obtain ⟨negative, digits⟩ := e
      have := Text.isAsciiPrintable_digits (hexp _ he).2
      cases negative <;>
        simp [exponentText, exponentSign, this, CodePoint.isAsciiPrintable, CodePoint.ofChar]
  simp [text, hwhole, hpoint, hexponent]

theorem isAsciiPrintable_write_float (layout : Layout) {x : Binary64} (h : Layout.isWritable x = true) :
    (layout.write x).isAsciiPrintable = true := by
  obtain ⟨hfinite, hc⟩ := Bool.and_eq_true_iff.1 h
  cases x with
  | finite negative s p =>
    obtain ⟨n, hn, htext, -⟩ := Layout.readNumber_write layout negative hc
    rw [Layout.write_finite, htext]
    cases negative <;>
      simp [Numeral.isAsciiPrintable_text hn, CodePoint.isAsciiPrintable, CodePoint.ofChar]
  | infinite => cases hfinite
  | nan => cases hfinite

theorem isAsciiPrintable_asciiPoint (c : CodePoint) : (asciiPoint c).isAsciiPrintable = true := by
  have hletter : ∀ e ∈ shortEscapes, e.1.isAsciiPrintable = true := by decide
  have hunit (n : Nat) : (unitEscape n).isAsciiPrintable = true := by
    simp [unitEscape, Text.isAsciiPrintable_hex, CodePoint.isAsciiPrintable, CodePoint.ofChar]
  unfold asciiPoint
  split
  · next letter h =>
    obtain ⟨e, he, rfl⟩ := Option.map_eq_some_iff.1 h
    have hbackslash : (CodePoint.ofChar '\\').isAsciiPrintable = true := rfl
    simp [hbackslash, hletter e (List.mem_of_find?_eq_some he)]
  · split
    · next h => simpa [CodePoint.isAsciiPrintable] using h
    · unfold numericEscape
      split <;> simp [hunit]

theorem isAsciiPrintable_writeText (t : Text) : (writeText asciiPoint t).isAsciiPrintable = true := by
  have hbody : Text.isAsciiPrintable (t.flatMap asciiPoint) = true := by
    induction t with
    | nil => rfl
    | cons c t ih => simp [List.flatMap_cons, isAsciiPrintable_asciiPoint, ih]
  simp [writeText, hbody, CodePoint.isAsciiPrintable, CodePoint.ofChar]

theorem isAsciiPrintable_writeItems : ∀ items : List Json,
    (∀ v ∈ items, (write .ascii v).isAsciiPrintable = true) →
      (writeItems .ascii items).isAsciiPrintable = true
  | [], _ => rfl
  | v :: rest, h => by
    have hcomma : Text.isAsciiPrintable Style.ascii.comma = true := rfl
    have hrest := isAsciiPrintable_writeItems rest fun w hw => h w (List.mem_cons_of_mem _ hw)
    simp [writeItems, hcomma, h v List.mem_cons_self, hrest]

theorem isAsciiPrintable_writeMembers : ∀ members : List (Text × Json),
    (∀ m ∈ members, (write .ascii m.2).isAsciiPrintable = true) →
      (writeMembers .ascii members).isAsciiPrintable = true
  | [], _ => rfl
  | (k, v) :: rest, h => by
    have hcomma : Text.isAsciiPrintable Style.ascii.comma = true := rfl
    have hcolon : Text.isAsciiPrintable Style.ascii.colon = true := rfl
    have hname : (writeText Style.ascii.namePoint k).isAsciiPrintable = true :=
      isAsciiPrintable_writeText k
    have hrest := isAsciiPrintable_writeMembers rest fun m hm => h m (List.mem_cons_of_mem _ hm)
    simp [writeMembers, hcomma, hcolon, hname, h (k, v) List.mem_cons_self, hrest]

/-- **What the compiler is given is printable ASCII.** -/
theorem isAsciiPrintable_write (v : Json) (h : v.readable Layout.isWritable = true) :
    (write .ascii v).isAsciiPrintable = true := by
  induction v using induct with
  | null => rfl
  | bool b => cases b <;> rfl
  | int n => exact Text.isAsciiPrintable_ofInt n
  | float x => exact isAsciiPrintable_write_float Layout.plain h
  | text t => exact isAsciiPrintable_writeText t
  | array items ih =>
    have hparts : ∀ v ∈ items, (write .ascii v).isAsciiPrintable = true := by
      intro v hv
      exact ih v hv ((all_array _ _ items).1 h v hv)
    cases items with
    | nil => rfl
    | cons v rest =>
      have hopen : (CodePoint.ofChar '[').isAsciiPrintable = true := rfl
      have hrest := isAsciiPrintable_writeItems rest fun w hw => hparts w (List.mem_cons_of_mem _ hw)
      simp [write, hopen, hparts v List.mem_cons_self, hrest]
  | object members ih =>
    have hparts : ∀ m ∈ members, (write .ascii m.2).isAsciiPrintable = true := by
      intro m hm
      exact ih m hm ((all_object _ _ members).1 h m hm).2
    cases members with
    | nil => rfl
    | cons m rest =>
      obtain ⟨k, v⟩ := m
      have hopen : (Text.ofString "\x7b").isAsciiPrintable = true := rfl
      have hcolon : Text.isAsciiPrintable Style.ascii.colon = true := rfl
      have hname : (writeText Style.ascii.namePoint k).isAsciiPrintable = true :=
        isAsciiPrintable_writeText k
      have hrest := isAsciiPrintable_writeMembers rest fun n hn => hparts n (List.mem_cons_of_mem _ hn)
      simp [write, hopen, hcolon, hname, hparts (k, v) List.mem_cons_self, hrest]

end Json

end SolidityGateway
