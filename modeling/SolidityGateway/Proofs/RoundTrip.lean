import SolidityGateway.Proofs.Values
import SolidityGateway.Proofs.Escapes
import SolidityGateway.Proofs.Numerals

/-!
Reading what was written. `Style.ReadBack` says of a style what its texts and names are read as and
that its numbers are read as themselves; `parse_write` then says of a whole value that its text is
read as the value with these texts and names. The induction is on the value. At each container the
loop over its items (`readItems_write`) or members (`readMembers_write`) is an induction of its own,
over a reader that is known to read the values inside.
-/

namespace SolidityGateway.Json

/-- What the texts and the names of a style are read as. Numbers are read as they are. -/
structure Style.ReadBack (style : Style) (number : Binary64 → Bool) (onText onName : Text → Text) :
    Prop where
  comma : ∃ spaces, style.comma = CodePoint.ofChar ',' :: spaces ∧ ∀ c ∈ spaces, isSpace c = true
  colon : ∃ spaces, style.colon = CodePoint.ofChar ':' :: spaces ∧ ∀ c ∈ spaces, isSpace c = true
  text : ∀ opening t rest, readText opening (t.flatMap style.point ++ CodePoint.ofChar '"' :: rest) =
    .ok (onText t, rest)
  name : ∀ opening t rest,
    readText opening (t.flatMap style.namePoint ++ CodePoint.ofChar '"' :: rest) = .ok (onName t, rest)
  numberHead : ∀ x, number x = true →
    ∃ c more, style.numbers.write x = c :: more ∧ (c = '-' ∨ c.isAsciiDigit = true)
  number : ∀ x, number x = true → ∀ rest, endsNumber rest = true →
    readScalar (style.numbers.write x ++ rest) = .ok (float x, rest)

/-! ## Heads and lengths of written values -/

def beginsValue (c : CodePoint) : Bool := !isSpace c && decide (c ≠ ']' ∧ c.val < 0x80)

theorem beginsValue_iff {c : CodePoint} :
    beginsValue c = true ↔ isSpace c = false ∧ c ≠ ']' ∧ c.val < 0x80 := by
  simp [beginsValue]

theorem beginsValue_number {c : CodePoint} (h : c = '-' ∨ c.isAsciiDigit = true) :
    beginsValue c = true := by
  rcases h with rfl | h
  · decide
  · simp only [CodePoint.isAsciiDigit, Bool.and_eq_true, decide_eq_true_eq] at h
    refine beginsValue_iff.2 ⟨?_, ?_, by omega⟩
    · simp only [isSpace, Bool.or_eq_false_iff, beq_eq_false_iff_ne]
      omega
    · intro heq
      subst heq
      exact absurd h (by decide)

theorem openingBrace : Text.ofString "\x7b" = [CodePoint.ofChar '\x7b'] := rfl

section
variable {style : Style} {number : Binary64 → Bool} {onText onName : Text → Text}

theorem write_head (hs : style.ReadBack number onText onName) (v : Json)
    (h : v.readable number = true) : ∃ c more, write style v = c :: more ∧ beginsValue c = true := by
  cases v with
  | null => exact ⟨_, _, rfl, by decide⟩
  | bool b => cases b <;> exact ⟨_, _, rfl, by decide⟩
  | int n =>
    cases n with
    | ofNat n =>
      obtain ⟨c, more, hdigits, hc⟩ := ofNat_cons n
      exact ⟨c, more, hdigits, beginsValue_number (.inr hc)⟩
    | negSucc n => exact ⟨_, _, rfl, by decide⟩
  | float x =>
    obtain ⟨c, more, hx, hc⟩ := hs.numberHead x h
    exact ⟨c, more, hx, beginsValue_number hc⟩
  | text t => exact ⟨_, _, rfl, by decide⟩
  | array items => cases items <;> exact ⟨_, _, rfl, by decide⟩
  | object members => cases members <;> exact ⟨_, _, rfl, by decide⟩

theorem skipSpace_of_head {c : CodePoint} (h : isSpace c = false) (rest : Text) :
    skipSpace (c :: rest) = c :: rest := by
  simp [skipSpace, h]

theorem skipSpace_spaces {spaces : Text} (h : ∀ c ∈ spaces, isSpace c = true) (rest : Text) :
    skipSpace (spaces ++ rest) = skipSpace rest :=
  List.dropWhile_append_of_pos h

theorem skipSpace_write (hs : style.ReadBack number onText onName) {v : Json}
    (h : v.readable number = true) (rest : Text) :
    skipSpace (write style v ++ rest) = write style v ++ rest := by
  obtain ⟨c, more, hw, hc⟩ := write_head hs v h
  rw [hw, List.cons_append, skipSpace_of_head (beginsValue_iff.1 hc).1]

theorem length_writeItems (hs : style.ReadBack number onText onName) : ∀ items : List Json,
    items.length < (writeItems style items).length ∧
      ∀ v ∈ items, (write style v).length ≤ (writeItems style items).length
  | [] => by simp [writeItems, Text.ofString]
  | v :: rest => by
    obtain ⟨spaces, hcomma, -⟩ := hs.comma
    obtain ⟨hlen, hmem⟩ := length_writeItems hs rest
    simp only [writeItems, hcomma, List.length_append, List.length_cons]
    refine ⟨by omega, List.forall_mem_cons.2 ⟨by omega, ?_⟩⟩
    intro w hw
    have := hmem w hw
    omega

theorem length_writeMembers (hs : style.ReadBack number onText onName) :
    ∀ members : List (Text × Json), members.length < (writeMembers style members).length ∧
      ∀ m ∈ members, (write style m.2).length ≤ (writeMembers style members).length
  | [] => by simp [writeMembers, Text.ofString]
  | (k, v) :: rest => by
    obtain ⟨spaces, hcomma, -⟩ := hs.comma
    obtain ⟨hlen, hmem⟩ := length_writeMembers hs rest
    simp only [writeMembers, hcomma, List.length_append, List.length_cons]
    refine ⟨by omega, List.forall_mem_cons.2 ⟨by simp only; omega, ?_⟩⟩
    intro m hm
    have := hmem m hm
    omega

theorem endsNumber_writeItems (hs : style.ReadBack number onText onName) (items : List Json)
    (rest : Text) : endsNumber (writeItems style items ++ rest) = true := by
  obtain ⟨spaces, hcomma, -⟩ := hs.comma
  cases items with
  | nil => rfl
  | cons v items => simp only [writeItems, hcomma, List.cons_append, endsNumber]; decide

theorem endsNumber_writeMembers (hs : style.ReadBack number onText onName)
    (members : List (Text × Json)) (rest : Text) :
    endsNumber (writeMembers style members ++ rest) = true := by
  obtain ⟨spaces, hcomma, -⟩ := hs.comma
  cases members with
  | nil => rfl
  | cons m members => simp only [writeMembers, hcomma, List.cons_append, endsNumber]; decide

/-! ## Loops -/

/-- A reader that reads a written value, whatever follows it. -/
def Reads (style : Style) (onText onName : Text → Text) (value : Text → Except Stop (Json × Text))
    (v : Json) : Prop :=
  ∀ rest, endsNumber rest = true →
    value (write style v ++ rest) = .ok (v.retext onText onName, rest)

-- The induction is on the items that are left; those that were read are carried along in reverse.
theorem readItems_write (hs : style.ReadBack number onText onName)
    (value : Text → Except Stop (Json × Text)) (rest : Text) :
    ∀ (items : List Json) (v : Json) (fuel : Nat) (read : List Json),
      (∀ w ∈ v :: items, w.readable number = true ∧ Reads style onText onName value w) →
      (v :: items).length ≤ fuel →
      readItems value fuel read (write style v ++ (writeItems style items ++ rest)) =
        .ok (read.reverse ++ (v :: items).map (retext onText onName), rest)
  | _, _, 0, _, _, hfuel => absurd hfuel (by simp)
  | [], v, fuel + 1, read, h, _ => by
    have hv := (h v List.mem_cons_self).2 _ (endsNumber_writeItems hs [] rest)
    simp only [readItems, hv, bind, Except.bind]
    simp [writeItems, Text.ofString, skipSpace_of_head (c := CodePoint.ofChar ']') (by decide)]
  | w :: items, v, fuel + 1, read, h, hfuel => by
    obtain ⟨spaces, hcomma, hspaces⟩ := hs.comma
    have hv := (h v List.mem_cons_self).2 _ (endsNumber_writeItems hs (w :: items) rest)
    have hw := (h w (by simp)).1
    have ih := readItems_write hs value rest items w fuel (v.retext onText onName :: read)
      (fun x hx => h x (List.mem_cons_of_mem _ hx)) (by simpa using hfuel)
    have hspace : isSpace (CodePoint.ofChar ',') = false := by decide
    have hclose : CodePoint.ofChar ',' ≠ ']' := by decide
    simp only [readItems, hv, bind, Except.bind]
    simp only [writeItems, hcomma, List.cons_append, List.append_assoc, skipSpace_of_head hspace,
      hclose, if_false, if_true, skipSpace_spaces hspaces, skipSpace_write hs hw, ih]
    simp

theorem readMembers_write (hs : style.ReadBack number onText onName)
    (value : Text → Except Stop (Json × Text)) (rest : Text) :
    ∀ (members : List (Text × Json)) (m : Text × Json) (fuel : Nat) (read : List (Text × Json)),
      (∀ n ∈ m :: members, n.2.readable number = true ∧ Reads style onText onName value n.2) →
      (m :: members).length ≤ fuel →
      readMembers value fuel read (writeText style.namePoint m.1 ++
          (style.colon ++ (write style m.2 ++ (writeMembers style members ++ rest)))) =
        .ok (read.reverse ++ (m :: members).map (fun n => (onName n.1, n.2.retext onText onName)), rest)
  | _, _, 0, _, _, hfuel => absurd hfuel (by simp)
  | members, (k, v), fuel + 1, read, h, hfuel => by
    obtain ⟨blanks, hcolon, hblanks⟩ := hs.colon
    obtain ⟨hreadable, hv⟩ := h (k, v) List.mem_cons_self
    have hv := hv _ (endsNumber_writeMembers hs members rest)
    have hname := hs.name (writeText style.namePoint k ++
      (style.colon ++ (write style v ++ (writeMembers style members ++ rest)))) k
      (style.colon ++ (write style v ++ (writeMembers style members ++ rest)))
    have hspace : isSpace (CodePoint.ofChar ':') = false := by decide
    simp only [hcolon, writeText, List.cons_append, List.append_assoc, List.nil_append] at hname
    simp only [writeText, hcolon, List.cons_append, List.append_assoc, List.nil_append, readMembers,
      ne_eq, not_true_eq_false, if_false, hname, bind, Except.bind, skipSpace_of_head hspace,
      skipSpace_spaces hblanks, skipSpace_write hs hreadable, hv]
    cases members with
    | nil =>
      simp [writeMembers, Text.ofString, skipSpace_of_head (c := CodePoint.ofChar '\x7d') (by decide)]
    | cons n members =>
      obtain ⟨spaces, hcomma, hspaces⟩ := hs.comma
      have ih := readMembers_write hs value rest members n fuel ((onName k, v.retext onText onName) :: read)
        (fun x hx => h x (List.mem_cons_of_mem _ hx)) (by simpa using hfuel)
      have hspace : isSpace (CodePoint.ofChar ',') = false := by decide
      have hquote : isSpace (CodePoint.ofChar '"') = false := by decide
      have hclose : CodePoint.ofChar ',' ≠ '\x7d' := by decide
      simp only [writeText, hcolon, List.cons_append, List.append_assoc, List.nil_append] at ih
      simp only [writeMembers, writeText, hcomma, hcolon, List.cons_append, List.append_assoc,
        List.nil_append, skipSpace_of_head hspace, hclose, if_false, if_true,
        skipSpace_spaces hspaces, skipSpace_of_head hquote, ih]
      simp

/-! ## Values -/

theorem readValue_scalar {c : CodePoint} {rest : Text} (fuel : Nat) (depth : Nat)
    (h : c ≠ '[' ∧ c ≠ '\x7b' ∧ c ≠ '"') :
    readValue fuel depth (c :: rest) = readScalar (c :: rest) := by
  cases depth <;> simp [readValue, h]

theorem readValue_number {t rest : Text} {v : Json} (fuel depth : Nat)
    (h : ∃ c more, t = c :: more ∧ (c = '-' ∨ c.isAsciiDigit = true))
    (hread : readScalar (t ++ rest) = .ok (v, rest)) :
    readValue fuel depth (t ++ rest) = .ok (v, rest) := by
  obtain ⟨c, more, rfl, hc⟩ := h
  rw [List.cons_append, readValue_scalar, ← List.cons_append, hread]
  rcases hc with rfl | hc
  · decide
  · refine ⟨?_, ?_, ?_⟩ <;> intro heq <;> subst heq <;> exact absurd hc (by decide)

/-- **A written value is read back** where as many containers as its height may be nested. -/
theorem readValue_write (hs : style.ReadBack number onText onName) (fuel : Nat) (v : Json) :
    ∀ depth, v.readable number = true → v.height ≤ depth → (write style v).length ≤ fuel →
      Reads style onText onName (readValue fuel depth) v := by
  -- The depth is free in the induction, since a container reads its parts one level down.
  induction v using induct with
  | null =>
    intro depth _ _ _ rest _
    exact readValue_scalar (c := CodePoint.ofChar 'n') fuel depth (by decide)
  | bool b =>
    intro depth _ _ _ rest _
    cases b
    · exact readValue_scalar (c := CodePoint.ofChar 'f') fuel depth (by decide)
    · exact readValue_scalar (c := CodePoint.ofChar 't') fuel depth (by decide)
  | int n =>
    intro depth h _ _ rest hrest
    have hn : n.natAbs < 10 ^ Text.digitLimit := by simpa [readable, all, isReadable] using h
    refine readValue_number fuel depth ?_ (readScalar_ofInt hn hrest)
    cases n with
    | ofNat n =>
      obtain ⟨c, more, hdigits, hc⟩ := ofNat_cons n
      exact ⟨c, more, hdigits, .inr hc⟩
    | negSucc n => exact ⟨_, _, rfl, .inl rfl⟩
  | float x =>
    intro depth h _ _ rest hrest
    exact readValue_number fuel depth (hs.numberHead x h) (hs.number x h rest hrest)
  | text t =>
    intro depth _ _ _ rest _
    have hread := hs.text (CodePoint.ofChar '"' :: (t.flatMap style.point ++ CodePoint.ofChar '"' :: rest))
      t rest
    have hbracket : CodePoint.ofChar '"' ≠ '[' := by decide
    have hbrace : CodePoint.ofChar '"' ≠ '\x7b' := by decide
    cases depth <;>
      simp only [write, writeText, List.cons_append, List.append_assoc, List.nil_append, readValue,
        hbracket, hbrace, if_false, if_true, hread, Except.map, retext]
  | array items ih =>
    intro depth h hheight hlen rest hrest
    obtain ⟨depth, rfl⟩ : ∃ d, depth = d + 1 :=
      Nat.exists_eq_add_of_le' (Nat.le_trans (height_pos _) hheight)
    have hheights := (height_array_le items).1 hheight
    have hreadable := (all_array _ _ items).1 h
    cases items with
    | nil =>
      simp [write, readValue, readArray, Text.ofString,
        skipSpace_of_head (c := CodePoint.ofChar ']') (by decide), retext, retextItems]
    | cons v items =>
      obtain ⟨hcount, hparts⟩ := length_writeItems hs items
      simp only [write, List.length_cons, List.length_append] at hlen
      -- the text of a part is shorter than the whole, so the fuel is enough for it
      have hreads : ∀ w ∈ v :: items,
          w.readable number = true ∧ Reads style onText onName (readValue fuel depth) w := by
        intro w hw
        refine ⟨hreadable w hw, ih w hw depth (hreadable w hw) (hheights w hw) ?_⟩
        rcases List.mem_cons.1 hw with rfl | hw
        · omega
        · have := hparts w hw
          omega
      have hitems := readItems_write hs (readValue fuel depth) rest items v fuel [] hreads
        (by simp only [List.length_cons]; omega)
      obtain ⟨c, more, hw, hc⟩ := write_head hs v (hreadable v List.mem_cons_self)
      obtain ⟨hspace, hclose, -⟩ := beginsValue_iff.1 hc
      simp only [hw, List.cons_append] at hitems
      simp only [write, hw, List.cons_append, List.append_assoc, readValue, if_true, readArray,
        skipSpace_of_head hspace, hclose, if_false, hitems, retext_array]
      rfl
  | object members ih =>
    intro depth h hheight hlen rest hrest
    obtain ⟨depth, rfl⟩ : ∃ d, depth = d + 1 :=
      Nat.exists_eq_add_of_le' (Nat.le_trans (height_pos _) hheight)
    have hheights := (height_object_le members).1 hheight
    have hreadable := (all_object _ _ members).1 h
    have hbracket : CodePoint.ofChar '\x7b' ≠ '[' := by decide
    cases members with
    | nil =>
      simp [write, readValue, readObject, Text.ofString, hbracket,
        skipSpace_of_head (c := CodePoint.ofChar '\x7d') (by decide), retext, retextMembers, ofMembers]
    | cons m members =>
      obtain ⟨k, v⟩ := m
      obtain ⟨hcount, hparts⟩ := length_writeMembers hs members
      simp only [write, openingBrace, List.length_append] at hlen
      have hreads : ∀ n ∈ (k, v) :: members,
          n.2.readable number = true ∧ Reads style onText onName (readValue fuel depth) n.2 := by
        intro n hn
        refine ⟨(hreadable n hn).2, ih n hn depth (hreadable n hn).2 (hheights n hn) ?_⟩
        rcases List.mem_cons.1 hn with rfl | hn
        · simp only
          omega
        · have := hparts n hn
          omega
      have hmembers := readMembers_write hs (readValue fuel depth) rest members (k, v) fuel [] hreads
        (by simp only [List.length_cons]; omega)
      have hspace : isSpace (CodePoint.ofChar '"') = false := by decide
      have hclose : CodePoint.ofChar '"' ≠ '\x7d' := by decide
      simp only [writeText, List.cons_append, List.append_assoc, List.nil_append] at hmembers
      simp only [write, writeText, openingBrace, List.cons_append, List.append_assoc, List.nil_append,
        readValue, hbracket, if_false, if_true, readObject, skipSpace_of_head hspace, hclose, hmembers,
        retext_object]
      rfl

/-! ## Documents -/

/-- **The text of a value is read as the value with its texts as the style has them read.** -/
theorem parse_write (hs : style.ReadBack number onText onName) {v : Json}
    (h : v.readable number = true) (hheight : v.height ≤ depthLimit) :
    parse (write style v) = .ok (v.retext onText onName) := by
  have hread := readValue_write hs ((write style v).length + 1) v depthLimit h hheight
    (Nat.le_succ _) [] rfl
  have hskip := skipSpace_write hs h []
  rw [List.append_nil] at hread hskip
  simp only [parse, readDocument, hskip, hread]
  rfl

theorem parseText_write (hs : style.ReadBack number onText onName) {v : Json}
    (h : v.readable number = true) (hheight : v.height ≤ depthLimit) :
    parseText (write style v) = .ok (v.retext onText onName) := by
  obtain ⟨c, more, hw, hc⟩ := write_head hs v h
  rw [parseText, if_neg, parse_write hs h hheight]
  rw [hw, List.head?_cons, Option.some.injEq]
  intro heq
  subst heq
  exact absurd hc (by decide)

end

end SolidityGateway.Json
