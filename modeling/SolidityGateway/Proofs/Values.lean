import SolidityGateway.Json.Basic
import SolidityGateway.Text.Decimal
import Mathlib.Data.List.Nodup
import Mathlib.Tactic.Common

/-!
JSON values as a whole. `Json.induct` is the induction that the other proofs use: an array by its
items, an object by the values of its members. `Json.distinct` says that every object names its
members apart, which holds of whatever was read. `Json.retext` changes all texts and names of a value
and reads its objects anew; `retext_eq_self_iff` says when that leaves the value as it was.
-/

namespace SolidityGateway.Json

/-! ## Induction -/

/-- What holds of scalars, of arrays with such items and of objects with such values holds of all. -/
@[elab_as_elim] theorem induct {P : Json → Prop} (null : P null) (bool : ∀ b, P (bool b))
    (int : ∀ n, P (int n)) (float : ∀ x, P (float x)) (text : ∀ t, P (text t))
    (array : ∀ items, (∀ v ∈ items, P v) → P (array items))
    (object : ∀ members, (∀ m ∈ members, P m.2) → P (object members)) (v : Json) : P v :=
  @Json.rec P (fun items => ∀ v ∈ items, P v) (fun members => ∀ m ∈ members, P m.2) (fun m => P m.2)
    null bool int float text array object
    (fun _ h => absurd h List.not_mem_nil)
    (fun _ _ hv hrest => List.forall_mem_cons.2 ⟨hv, hrest⟩)
    (fun _ h => absurd h List.not_mem_nil)
    (fun _ _ hm hrest => List.forall_mem_cons.2 ⟨hm, hrest⟩)
    (fun _ _ hv => hv) v

/-! ## Tests over the parts of a value -/

section
variable (leaf : Json → Bool) (name : Text → Bool)

theorem allItems_iff : ∀ items : List Json,
    allItems leaf name items = true ↔ ∀ v ∈ items, v.all leaf name = true
  | [] => by simp [allItems]
  | v :: rest => by simp [allItems, allItems_iff rest]

theorem allMembers_iff : ∀ members : List (Text × Json),
    allMembers leaf name members = true ↔
      ∀ m ∈ members, name m.1 = true ∧ m.2.all leaf name = true
  | [] => by simp [allMembers]
  | (k, v) :: rest => by simp [allMembers, allMembers_iff rest]

@[simp] theorem all_array (items : List Json) :
    (array items).all leaf name = true ↔ ∀ v ∈ items, v.all leaf name = true :=
  allItems_iff leaf name items

@[simp] theorem all_object (members : List (Text × Json)) :
    (object members).all leaf name = true ↔
      ∀ m ∈ members, name m.1 = true ∧ m.2.all leaf name = true :=
  allMembers_iff leaf name members

end

theorem all_and {leaf leaf' leaf'' : Json → Bool} {name name' name'' : Text → Bool}
    (hl : ∀ v, leaf v = true → leaf' v = true → leaf'' v = true)
    (hn : ∀ k, name k = true → name' k = true → name'' k = true) (v : Json) :
    v.all leaf name = true → v.all leaf' name' = true → v.all leaf'' name'' = true := by
  induction v using induct with
  | array items ih =>
    simp only [all_array]
    intro h h' w hw
    exact ih w hw (h w hw) (h' w hw)
  | object members ih =>
    simp only [all_object]
    intro h h' m hm
    obtain ⟨hname, hvalue⟩ := h m hm
    obtain ⟨hname', hvalue'⟩ := h' m hm
    exact ⟨hn _ hname hname', ih m hm hvalue hvalue'⟩
  | _ => exact hl _

theorem all_mono {leaf leaf' : Json → Bool} {name name' : Text → Bool}
    (hl : ∀ v, leaf v = true → leaf' v = true) (hn : ∀ k, name k = true → name' k = true) (v : Json)
    (h : v.all leaf name = true) : v.all leaf' name' = true :=
  all_and (fun v hv _ => hl v hv) (fun k hk _ => hn k hk) v h h

theorem itemsHeight_le_iff {n : Nat} : ∀ items : List Json,
    itemsHeight items ≤ n ↔ ∀ v ∈ items, v.height ≤ n
  | [] => by simp [itemsHeight]
  | v :: rest => by rw [itemsHeight, Nat.max_le, itemsHeight_le_iff rest, List.forall_mem_cons]

theorem membersHeight_le_iff {n : Nat} : ∀ members : List (Text × Json),
    membersHeight members ≤ n ↔ ∀ m ∈ members, m.2.height ≤ n
  | [] => by simp [membersHeight]
  | (k, v) :: rest => by rw [membersHeight, Nat.max_le, membersHeight_le_iff rest, List.forall_mem_cons]

theorem height_array_le {n : Nat} (items : List Json) :
    (array items).height ≤ n + 1 ↔ ∀ v ∈ items, v.height ≤ n := by
  rw [← itemsHeight_le_iff]; simp [height]

theorem height_object_le {n : Nat} (members : List (Text × Json)) :
    (object members).height ≤ n + 1 ↔ ∀ m ∈ members, m.2.height ≤ n := by
  rw [← membersHeight_le_iff]; simp [height]

theorem height_pos (v : Json) : 1 ≤ v.height := by
  cases v <;> simp [height]

/-! ## Members -/

theorem mem_of_lookup {name : Text} {value : Json} : ∀ {members : List (Text × Json)},
    lookup name members = some value → (name, value) ∈ members
  | [], h => by simp at h
  | (k, v) :: rest, h => by
    rw [lookup_cons] at h
    by_cases hk : k = name
    · rw [if_pos hk] at h
      subst hk
      cases h
      exact List.mem_cons_self
    · rw [if_neg hk] at h
      exact List.mem_cons_of_mem _ (mem_of_lookup h)

def names (members : List (Text × Json)) : List Text := members.map Prod.fst

@[simp] theorem names_nil : names [] = [] := rfl

@[simp] theorem names_cons (m : Text × Json) (rest : List (Text × Json)) :
    names (m :: rest) = m.1 :: names rest := rfl

@[simp] theorem length_names (members : List (Text × Json)) :
    (names members).length = members.length := List.length_map _

@[simp] theorem names_append (front rest : List (Text × Json)) :
    names (front ++ rest) = names front ++ names rest := List.map_append

theorem names_insertMember (name : Text) (value : Json) : ∀ members : List (Text × Json),
    names (insertMember name value members) =
      if name ∈ names members then names members else names members ++ [name]
  | [] => by simp [insertMember]
  | (k, v) :: rest => by
    by_cases hk : k = name
    · simp [insertMember, hk]
    · have hk' : name ≠ k := Ne.symm hk
      by_cases hr : name ∈ names rest <;>
        simp [insertMember, hk, hk', names_insertMember name value rest, hr]

theorem insertMember_of_notMem {name : Text} (value : Json) : ∀ {members : List (Text × Json)},
    name ∉ names members → insertMember name value members = members ++ [(name, value)]
  | [], _ => rfl
  | (k, v) :: rest, h => by
    simp only [names_cons, List.mem_cons, not_or] at h
    simp [insertMember, Ne.symm h.1, insertMember_of_notMem value h.2]

theorem mem_insertMember {name : Text} {value : Json} {m : Text × Json} :
    ∀ {members : List (Text × Json)},
      m ∈ insertMember name value members → m = (name, value) ∨ m ∈ members
  | [], h => by simpa [insertMember] using h
  | (k, v) :: rest, h => by
    by_cases hk : k = name
    · simp only [insertMember, hk, if_true, List.mem_cons] at h
      rcases h with h | h
      · exact .inl h
      · exact .inr (List.mem_cons_of_mem _ h)
    · simp only [insertMember, hk, if_false, List.mem_cons] at h
      rcases h with h | h
      · exact .inr (h ▸ List.mem_cons_self)
      · exact (mem_insertMember h).imp_right (List.mem_cons_of_mem _)

/-- The members written one after the other into those already there. -/
def insertAll (done members : List (Text × Json)) : List (Text × Json) :=
  members.foldl (fun done member => insertMember member.1 member.2 done) done

theorem ofMembers_eq_insertAll (members : List (Text × Json)) :
    ofMembers members = insertAll [] members := rfl

theorem nodup_insertAll : ∀ (members done : List (Text × Json)),
    (names done).Nodup → (names (insertAll done members)).Nodup
  | [], _, h => h
  | m :: rest, done, h => by
    refine nodup_insertAll rest (insertMember m.1 m.2 done) ?_
    rw [names_insertMember]
    split
    · exact h
    · next hm => simpa using h.concat hm

theorem mem_insertAll {m : Text × Json} : ∀ {members done : List (Text × Json)},
    m ∈ insertAll done members → m ∈ done ∨ m ∈ members
  | [], _, h => .inl h
  | n :: rest, done, h => by
    rcases @mem_insertAll m rest _ h with h | h
    · rcases mem_insertMember h with rfl | h
      · exact .inr List.mem_cons_self
      · exact .inl h
    · exact .inr (List.mem_cons_of_mem _ h)

theorem insertAll_cons_of_notMem {m : Text × Json} {done : List (Text × Json)}
    (hm : m.1 ∉ names done) (rest : List (Text × Json)) :
    insertAll done (m :: rest) = insertAll (done ++ [m]) rest := by
  show insertAll (insertMember m.1 m.2 done) rest = _
  rw [insertMember_of_notMem m.2 hm]

theorem insertAll_of_nodup : ∀ {members done : List (Text × Json)},
    (names (done ++ members)).Nodup → insertAll done members = done ++ members
  | [], done, _ => (List.append_nil done).symm
  | m :: rest, done, h => by
    have hm : m.1 ∉ names done := by
      intro hmem
      rw [names_append, names_cons] at h
      exact (List.nodup_append.1 h).2.2 _ hmem _ List.mem_cons_self rfl
    rw [insertAll_cons_of_notMem hm, insertAll_of_nodup (by simpa using h)]
    simp

theorem length_insertAll_le : ∀ (members done : List (Text × Json)),
    (insertAll done members).length ≤ done.length + members.length
  | [], _ => by simp [insertAll]
  | m :: rest, done => by
    have ih := length_insertAll_le rest (insertMember m.1 m.2 done)
    have hlen : (insertMember m.1 m.2 done).length ≤ done.length + 1 := by
      rw [← length_names, names_insertMember]
      split <;> simp
    show (insertAll (insertMember m.1 m.2 done) rest).length ≤ _
    simp only [List.length_cons]
    omega

theorem nodup_of_length_insertAll : ∀ (members done : List (Text × Json)),
    (names done).Nodup → done.length + members.length ≤ (insertAll done members).length →
      (names (done ++ members)).Nodup
  | [], done, hd, _ => by simpa using hd
  | m :: rest, done, hd, h => by
    have hle : (insertAll done (m :: rest)).length ≤
        (insertMember m.1 m.2 done).length + rest.length := length_insertAll_le rest _
    by_cases hm : m.1 ∈ names done
    -- a name that is there already leaves the result too short
    · have hlen : (insertMember m.1 m.2 done).length = done.length := by
        rw [← length_names, names_insertMember, if_pos hm, length_names]
      simp only [List.length_cons] at h
      omega
    · rw [insertAll_cons_of_notMem hm] at h
      have ih := nodup_of_length_insertAll rest (done ++ [m])
        (by simpa using hd.concat hm) (by simpa [Nat.add_assoc, Nat.add_comm 1] using h)
      simpa using ih

theorem nodup_ofMembers (members : List (Text × Json)) : (names (ofMembers members)).Nodup :=
  nodup_insertAll members [] List.nodup_nil

theorem mem_ofMembers {m : Text × Json} {members : List (Text × Json)} (h : m ∈ ofMembers members) :
    m ∈ members :=
  (mem_insertAll h).resolve_left (List.not_mem_nil)

theorem ofMembers_of_nodup {members : List (Text × Json)} (h : (names members).Nodup) :
    ofMembers members = members := by
  rw [ofMembers_eq_insertAll, insertAll_of_nodup (by simpa using h), List.nil_append]

theorem nodup_of_length_ofMembers {members : List (Text × Json)}
    (h : members.length ≤ (ofMembers members).length) : (names members).Nodup := by
  rw [ofMembers_eq_insertAll] at h
  simpa using nodup_of_length_insertAll members [] List.nodup_nil (by simpa using h)

/-! ## Names that differ -/

mutual

/-- Whether every object inside a value names its members apart. -/
def distinct : Json → Bool
  | array items => distinctItems items
  | object members => decide (names members).Nodup && distinctMembers members
  | _ => true

def distinctItems : List Json → Bool
  | [] => true
  | value :: rest => distinct value && distinctItems rest

def distinctMembers : List (Text × Json) → Bool
  | [] => true
  | (_, value) :: rest => distinct value && distinctMembers rest

end

theorem distinctItems_iff : ∀ items : List Json,
    distinctItems items = true ↔ ∀ v ∈ items, v.distinct = true
  | [] => by simp [distinctItems]
  | v :: rest => by simp [distinctItems, distinctItems_iff rest]

theorem distinctMembers_iff : ∀ members : List (Text × Json),
    distinctMembers members = true ↔ ∀ m ∈ members, m.2.distinct = true
  | [] => by simp [distinctMembers]
  | (k, v) :: rest => by simp [distinctMembers, distinctMembers_iff rest]

@[simp] theorem distinct_array (items : List Json) :
    (array items).distinct = true ↔ ∀ v ∈ items, v.distinct = true :=
  distinctItems_iff items

@[simp] theorem distinct_object (members : List (Text × Json)) :
    (object members).distinct = true ↔
      (names members).Nodup ∧ ∀ m ∈ members, m.2.distinct = true := by
  simp [distinct, distinctMembers_iff]

/-! ## Numbers that can be read -/

/-- Whether a scalar can be read back as far as its number goes: an integer is short enough, and any
other number satisfies a test. -/
def isReadable (number : Binary64 → Bool) : Json → Bool
  | int n => decide (n.natAbs < 10 ^ Text.digitLimit)
  | float x => number x
  | _ => true

def readable (number : Binary64 → Bool) (v : Json) : Bool := v.all (isReadable number) fun _ => true

/-! ## Changing texts and names -/

section
variable (onText onName : Text → Text)

mutual

/-- The value with all texts and names changed. Of members that come to have one name the last value
stays, at the first place. -/
def retext : Json → Json
  | text t => text (onText t)
  | array items => array (retextItems items)
  | object members => object (ofMembers (retextMembers members))
  | value => value

def retextItems : List Json → List Json
  | [] => []
  | value :: rest => retext value :: retextItems rest

def retextMembers : List (Text × Json) → List (Text × Json)
  | [] => []
  | (name, value) :: rest => (onName name, retext value) :: retextMembers rest

end

theorem retextItems_eq : ∀ items : List Json,
    retextItems onText onName items = items.map (retext onText onName)
  | [] => rfl
  | v :: rest => by rw [retextItems, retextItems_eq rest, List.map_cons]

theorem retextMembers_eq : ∀ members : List (Text × Json),
    retextMembers onText onName members =
      members.map fun m => (onName m.1, m.2.retext onText onName)
  | [] => rfl
  | (k, v) :: rest => by rw [retextMembers, retextMembers_eq rest, List.map_cons]

@[simp] theorem retext_array (items : List Json) :
    (array items).retext onText onName = array (items.map (retext onText onName)) := by
  rw [retext, retextItems_eq]

@[simp] theorem retext_object (members : List (Text × Json)) :
    (object members).retext onText onName =
      object (ofMembers (members.map fun m => (onName m.1, m.2.retext onText onName))) := by
  rw [retext, retextMembers_eq]

theorem map_eq_self_iff {α : Type} {f : α → α} {l : List α} : l.map f = l ↔ ∀ a ∈ l, f a = a := by
  have h := List.map_inj_left (l := l) (f := f) (g := id)
  simpa only [List.map_id, id_eq] using h

/-- Whether every text and every name of a value is kept. -/
def keepsTexts (v : Json) : Bool :=
  v.all (fun | text t => decide (onText t = t) | _ => true) (fun k => decide (onName k = k))

/-- **A value is kept just if its texts and names are.** If two names became one, a member would be
missing. -/
theorem retext_eq_self_iff (v : Json) (h : v.distinct = true) :
    v.retext onText onName = v ↔ v.keepsTexts onText onName = true := by
  induction v using induct with
  | text t => simp [retext, keepsTexts, all]
  | array items ih =>
    simp only [retext_array, keepsTexts, all_array, array.injEq]
    rw [map_eq_self_iff]
    refine forall₂_congr ?_
    intro v hv
    exact ih v hv ((distinct_array items).1 h v hv)
  | object members ih =>
    obtain ⟨hnodup, hvalues⟩ := (distinct_object members).1 h
    simp only [retext_object, keepsTexts, all_object, object.injEq, decide_eq_true_eq]
    have hparts : (members.map fun m => (onName m.1, m.2.retext onText onName)) = members ↔
        ∀ m ∈ members, onName m.1 = m.1 ∧ m.2.keepsTexts onText onName = true := by
      rw [map_eq_self_iff]
      refine forall₂_congr ?_
      intro m hm
      rw [← ih m hm (hvalues m hm)]
      exact Prod.ext_iff
    refine Iff.trans ?_ hparts
    constructor
    · intro heq
      -- as many members as before, so no two names have become one
      have hlen := congrArg List.length heq
      rw [ofMembers_of_nodup (nodup_of_length_ofMembers (by simp [hlen]))] at heq
      exact heq
    · intro heq
      rw [heq, ofMembers_of_nodup hnodup]
  | _ => simp [retext, keepsTexts, all]

end

end SolidityGateway.Json
