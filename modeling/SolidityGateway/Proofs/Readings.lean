import SolidityGateway.Proofs.Values
import SolidityGateway.Proofs.Numerals
import SolidityGateway.Proofs.Rounding

/-!
What is read. A value that was read has objects with distinct names, integers that are not too long,
numbers in the form of the format, and is nested no deeper than the reader goes (`Reading`). The
loops over items and members keep that of what they have read so far.
-/

namespace SolidityGateway.Json

/-- What is known of a value that was read where `depth` more containers could be nested. -/
structure Reading (depth : Nat) (v : Json) : Prop where
  distinct : v.distinct = true
  readable : v.readable Binary64.isCanonical = true
  height : v.height ≤ depth + 1

section
variable {depth : Nat}

theorem Reading.scalar {v : Json} (hdistinct : v.distinct = true)
    (hreadable : v.readable Binary64.isCanonical = true) (hheight : v.height = 1) : Reading depth v :=
  ⟨hdistinct, hreadable, by omega⟩

theorem Reading.array {items : List Json} (h : ∀ v ∈ items, Reading depth v) :
    Reading (depth + 1) (array items) where
  distinct := (distinct_array items).2 fun v hv => (h v hv).distinct
  readable := (all_array _ _ items).2 fun v hv => (h v hv).readable
  height := (height_array_le items).2 fun v hv => (h v hv).height

theorem Reading.object {members : List (Text × Json)} (h : ∀ m ∈ members, Reading depth m.2) :
    Reading (depth + 1) (object (ofMembers members)) where
  distinct := (distinct_object _).2
    ⟨nodup_ofMembers members, fun m hm => (h m (mem_ofMembers hm)).distinct⟩
  readable := (all_object _ _ _).2 fun m hm => ⟨rfl, (h m (mem_ofMembers hm)).readable⟩
  height := (height_object_le _).2 fun m hm => (h m (mem_ofMembers hm)).height

theorem Reading.empty : Reading (depth + 1) (Json.object []) :=
  @Reading.object depth [] fun _ hm => absurd hm List.not_mem_nil

/-! ## Parts of a reading -/

theorem Reading.text (t : Text) : Reading depth (text t) := Reading.scalar rfl rfl rfl

theorem Reading.item {items : List Json} (h : Reading (depth + 1) (Json.array items)) {v : Json}
    (hv : v ∈ items) : Reading depth v where
  distinct := (distinct_array items).1 h.distinct v hv
  readable := (all_array _ _ items).1 h.readable v hv
  height := (height_array_le items).1 h.height v hv

theorem Reading.member {members : List (Text × Json)} (h : Reading (depth + 1) (Json.object members))
    {m : Text × Json} (hm : m ∈ members) : Reading depth m.2 where
  distinct := ((distinct_object members).1 h.distinct).2 m hm
  readable := ((all_object _ _ members).1 h.readable m hm).2
  height := (height_object_le members).1 h.height m hm

theorem Reading.lookup {members : List (Text × Json)} (h : Reading (depth + 1) (Json.object members))
    {name : Text} {v : Json} (hv : lookup name members = some v) : Reading depth v :=
  h.member (mem_of_lookup hv)

/-! ## Scalars -/

theorem isAsciiDigit_of_mem_digitsOf {t : Text} : ∀ c ∈ digitsOf t, c.isAsciiDigit = true :=
  List.all_eq_true.1 List.all_takeWhile

theorem isAsciiDigit_of_wholePart? {t whole rest : Text} (h : wholePart? t = some (whole, rest)) :
    ∀ c ∈ whole, c.isAsciiDigit = true := by
  cases t with
  | nil => cases h
  | cons c t =>
    simp only [wholePart?] at h
    split at h
    · next hc =>
      obtain rfl : [c] = whole := congrArg Prod.fst (Option.some.inj h)
      intro d hd
      rw [List.mem_singleton.1 hd, hc]
      decide
    · split at h
      · cases h
      · obtain rfl : digitsOf (c :: t) = whole := congrArg Prod.fst (Option.some.inj h)
        exact isAsciiDigit_of_mem_digitsOf

theorem reading_readNumber {start t rest : Text} {negative : Bool} {v : Json}
    (h : readNumber start negative t = .ok (v, rest)) : Reading depth v := by
  unfold readNumber at h
  split at h
  · cases h
  · next whole after hwhole =>
    split at h
    · split at h
      · cases h
      · next hlen =>
        obtain ⟨rfl, -⟩ := Prod.mk.inj (Except.ok.inj h)
        have hlt : Text.toNat whole < 10 ^ Text.digitLimit :=
          lt_of_lt_of_le (Text.toNat_lt (isAsciiDigit_of_wholePart? hwhole))
            (Nat.pow_le_pow_right (by decide) (not_lt.1 hlen))
        refine Reading.scalar rfl ?_ rfl
        simp only [readable, all, isReadable, decide_eq_true_eq]
        split <;> simpa using hlt
    · obtain ⟨rfl, -⟩ := Prod.mk.inj (Except.ok.inj h)
      exact Reading.scalar rfl (Binary64.isCanonical_ofDecimal _ _ _) rfl

theorem reading_words : ∀ word ∈ words, word.2.distinct = true ∧
    word.2.readable Binary64.isCanonical = true ∧ word.2.height = 1 := by
  simp only [words, List.forall_mem_cons]
  refine ⟨⟨rfl, rfl, rfl⟩, ⟨rfl, rfl, rfl⟩, ⟨rfl, rfl, rfl⟩, ⟨rfl, rfl, rfl⟩, ⟨rfl, rfl, rfl⟩,
    ⟨rfl, rfl, rfl⟩, ?_⟩
  intro word h
  exact absurd h List.not_mem_nil

theorem reading_readScalar {t rest : Text} {v : Json} (h : readScalar t = .ok (v, rest)) :
    Reading depth v := by
  unfold readScalar at h
  split at h
  · next word w hfind =>
    obtain ⟨rfl, -⟩ := Prod.mk.inj (Except.ok.inj h)
    obtain ⟨hdistinct, hreadable, hheight⟩ := reading_words _ (List.mem_of_find?_eq_some hfind)
    exact Reading.scalar hdistinct hreadable hheight
  · split at h
    · cases h
    · split at h <;> exact reading_readNumber h

theorem reading_readText {opening t rest : Text} {v : Json}
    (h : (readText opening t).map (fun r => (text r.1, r.2)) = .ok (v, rest)) : Reading depth v := by
  cases hread : readText opening t with
  | error stop => rw [hread] at h; cases h
  | ok r =>
    rw [hread] at h
    obtain ⟨rfl, -⟩ := Prod.mk.inj (Except.ok.inj h)
    exact Reading.scalar rfl rfl rfl

/-! ## Containers -/

section
variable {value : Text → Except Stop (Json × Text)}
  (hvalue : ∀ t v rest, value t = .ok (v, rest) → Reading depth v)
include hvalue

-- What was read so far is what the loop keeps; the induction is on the fuel.
theorem reading_readItems : ∀ (fuel : Nat) (read : List Json) (t : Text) (items : List Json)
    (left : Text), (∀ v ∈ read, Reading depth v) → readItems value fuel read t = .ok (items, left) →
      ∀ v ∈ items, Reading depth v
  | 0, _, _, _, _, _, h => by cases h
  | fuel + 1, read, t, items, left, hread, h => by
    simp only [readItems] at h
    cases hv : value t with
    | error stop => rw [hv] at h; cases h
    | ok r =>
      obtain ⟨v, rest⟩ := r
      have hnext : ∀ w ∈ v :: read, Reading depth w :=
        List.forall_mem_cons.2 ⟨hvalue t v rest hv, hread⟩
      simp only [hv, bind, Except.bind] at h
      split at h
      · cases h
      · split at h
        · obtain ⟨rfl, -⟩ := Prod.mk.inj (Except.ok.inj h)
          intro w hw
          exact hnext w (List.mem_reverse.1 hw)
        · split at h
          · exact reading_readItems fuel _ _ items left hnext h
          · cases h

theorem reading_readMembers : ∀ (fuel : Nat) (read : List (Text × Json)) (t : Text)
    (members : List (Text × Json)) (left : Text), (∀ m ∈ read, Reading depth m.2) →
      readMembers value fuel read t = .ok (members, left) → ∀ m ∈ members, Reading depth m.2
  | 0, _, _, _, _, _, h => by simp [readMembers] at h
  | fuel + 1, _, [], _, _, _, h => by simp [readMembers] at h
  | fuel + 1, read, quote :: inside, members, left, hread, h => by
    simp only [readMembers] at h
    split at h
    · cases h
    · cases hname : readText (quote :: inside) inside with
      | error stop => rw [hname] at h; cases h
      | ok r =>
        obtain ⟨name, rest⟩ := r
        simp only [hname, bind, Except.bind] at h
        split at h
        · cases h
        · next colon after hcolon =>
          split at h
          · cases h
          · cases hv : value (skipSpace after) with
            | error stop => rw [hv] at h; cases h
            | ok r =>
              obtain ⟨v, rest⟩ := r
              have hnext : ∀ m ∈ (name, v) :: read, Reading depth m.2 :=
                List.forall_mem_cons.2 ⟨hvalue _ v rest hv, hread⟩
              simp only [hv] at h
              split at h
              · cases h
              · split at h
                · obtain ⟨rfl, -⟩ := Prod.mk.inj (Except.ok.inj h)
                  intro m hm
                  exact hnext m (List.mem_reverse.1 hm)
                · split at h
                  · exact reading_readMembers fuel _ _ members left hnext h
                  · cases h

theorem reading_readArray {fuel : Nat} {t rest : Text} {v : Json}
    (h : readArray value fuel t = .ok (v, rest)) : Reading (depth + 1) v := by
  unfold readArray at h
  split at h
  · cases h
  · next c more _ =>
    split at h
    · obtain ⟨rfl, -⟩ := Prod.mk.inj (Except.ok.inj h)
      exact Reading.array fun _ hv => absurd hv List.not_mem_nil
    · cases hitems : readItems value fuel [] (c :: more) with
      | error stop => rw [hitems] at h; cases h
      | ok r =>
        rw [hitems] at h
        obtain ⟨rfl, -⟩ := Prod.mk.inj (Except.ok.inj h)
        exact Reading.array (reading_readItems hvalue fuel [] _ r.1 r.2
          (fun _ hv => absurd hv List.not_mem_nil) hitems)

theorem reading_readObject {fuel : Nat} {t rest : Text} {v : Json}
    (h : readObject value fuel t = .ok (v, rest)) : Reading (depth + 1) v := by
  unfold readObject at h
  split at h
  · cases h
  · next c more _ =>
    split at h
    · obtain ⟨rfl, -⟩ := Prod.mk.inj (Except.ok.inj h)
      exact Reading.empty
    · cases hmembers : readMembers value fuel [] (c :: more) with
      | error stop => rw [hmembers] at h; cases h
      | ok r =>
        rw [hmembers] at h
        obtain ⟨rfl, -⟩ := Prod.mk.inj (Except.ok.inj h)
        exact Reading.object (reading_readMembers hvalue fuel [] _ r.1 r.2
          (fun _ hm => absurd hm List.not_mem_nil) hmembers)

end

end

/-! ## Values -/

theorem reading_readValue (fuel : Nat) : ∀ (depth : Nat) (t : Text) (v : Json) (rest : Text),
    readValue fuel depth t = .ok (v, rest) → Reading depth v
  | 0, [], _, _, h => by simp [readValue] at h
  | depth + 1, [], _, _, h => by simp [readValue] at h
  | 0, c :: t, v, rest, h => by
    simp only [readValue] at h
    split at h
    · cases h
    · split at h
      · cases h
      · split at h
        · exact reading_readText h
        · exact reading_readScalar h
  | depth + 1, c :: t, v, rest, h => by
    simp only [readValue] at h
    split at h
    · exact reading_readArray (reading_readValue fuel depth) h
    · split at h
      · exact reading_readObject (reading_readValue fuel depth) h
      · split at h
        · exact reading_readText h
        · exact reading_readScalar h

/-- **What a text is read as.** -/
theorem reading_parse {t : Text} {v : Json} (h : parse t = .ok v) : Reading depthLimit v := by
  unfold parse at h
  split at h
  · next w hread =>
    obtain rfl := Except.ok.inj h
    simp only [readDocument] at hread
    cases hv : readValue (t.length + 1) depthLimit (skipSpace t) with
    | error stop => rw [hv] at hread; cases hread
    | ok r =>
      simp only [hv, bind, Except.bind] at hread
      split at hread
      · obtain rfl := Except.ok.inj hread
        exact reading_readValue _ _ _ _ _ hv
      · cases hread
  all_goals cases h

theorem reading_parseText {t : Text} {v : Json} (h : parseText t = .ok v) : Reading depthLimit v := by
  unfold parseText at h
  split at h
  · cases h
  · exact reading_parse h

end SolidityGateway.Json
