import SolidityGateway.Text.CodePoint
import SolidityGateway.Number.Binary64

/-!
JSON values. Numbers written without point and exponent are integers of any size, all others binary64
numbers, among them the three that are not finite. An object is the list of its members in order;
`insertMember` keeps each name at its first place with its last value, so an object that was read
names each member once.
-/

namespace SolidityGateway

/-- A JSON value. -/
inductive Json
  | null
  | bool (b : Bool)
  | int (n : Int)
  | float (x : Binary64)
  | text (t : Text)
  | array (items : List Json)
  | object (members : List (Text × Json))

namespace Json

instance : Inhabited Json := ⟨null⟩

def lookup (name : Text) : List (Text × Json) → Option Json
  | [] => none
  | (k, v) :: rest => if k = name then some v else lookup name rest

/-- Writes a member: a name that is present keeps its place, a new one goes to the end. -/
def insertMember (name : Text) (value : Json) : List (Text × Json) → List (Text × Json)
  | [] => [(name, value)]
  | (k, v) :: rest => if k = name then (k, value) :: rest else (k, v) :: insertMember name value rest

/-- The members in the order in which their names first stand, each with its last value. -/
def ofMembers (members : List (Text × Json)) : List (Text × Json) :=
  members.foldl (fun done member => insertMember member.1 member.2 done) []

/-- False for null, false, zero, and what is empty. -/
def isTruthy : Json → Bool
  | null => false
  | bool b => b
  | int n => n != 0
  | float x => !x.isZero
  | text t => !t.isEmpty
  | array items => !items.isEmpty
  | object members => !members.isEmpty

/-- The first value if it is truthy, and else the second. -/
def orElse (value : Option Json) (other : Json) : Json :=
  match value with
  | some v => if v.isTruthy then v else other
  | none => other

/-- The word for the kind of a value in messages. -/
def kind : Json → String
  | null => "NoneType"
  | bool _ => "bool"
  | int _ => "int"
  | float _ => "float"
  | text _ => "str"
  | array _ => "list"
  | object _ => "dict"

def toText? : Json → Option Text
  | text t => some t
  | _ => none

@[simp] theorem lookup_nil (name : Text) : lookup name [] = none := rfl

theorem lookup_cons (name k : Text) (v : Json) (rest : List (Text × Json)) :
    lookup name ((k, v) :: rest) = if k = name then some v else lookup name rest := rfl

theorem lookup_insertMember_self (name : Text) (value : Json) (members : List (Text × Json)) :
    lookup name (insertMember name value members) = some value := by
  induction members with
  | nil => simp [insertMember, lookup]
  | cons m rest ih =>
    obtain ⟨k, v⟩ := m
    by_cases h : k = name <;> simp [insertMember, lookup, h, ih]

theorem lookup_insertMember_of_ne {name other : Text} (h : other ≠ name) (value : Json)
    (members : List (Text × Json)) :
    lookup other (insertMember name value members) = lookup other members := by
  induction members with
  | nil => simp [insertMember, lookup, Ne.symm h]
  | cons m rest ih =>
    obtain ⟨k, v⟩ := m
    by_cases hk : k = name
    · subst hk; simp [insertMember, lookup, Ne.symm h]
    · by_cases ho : k = other
      · subst ho; simp [insertMember, lookup, hk]
      · simp [insertMember, lookup, hk, ho, ih]

/-! ## Tests over a whole value -/

mutual

/-- Whether every scalar inside a value satisfies `leaf` and every member name satisfies `name`. -/
def all (leaf : Json → Bool) (name : Text → Bool) : Json → Bool
  | array items => allItems leaf name items
  | object members => allMembers leaf name members
  | value => leaf value

def allItems (leaf : Json → Bool) (name : Text → Bool) : List Json → Bool
  | [] => true
  | value :: rest => all leaf name value && allItems leaf name rest

def allMembers (leaf : Json → Bool) (name : Text → Bool) : List (Text × Json) → Bool
  | [] => true
  | (k, value) :: rest => name k && all leaf name value && allMembers leaf name rest

end

mutual

/-- How deep values are nested in a value; a scalar and an empty container have height 1. -/
def height : Json → Nat
  | array items => itemsHeight items + 1
  | object members => membersHeight members + 1
  | _ => 1

def itemsHeight : List Json → Nat
  | [] => 0
  | value :: rest => max (height value) (itemsHeight rest)

def membersHeight : List (Text × Json) → Nat
  | [] => 0
  | (_, value) :: rest => max (height value) (membersHeight rest)

end

end Json

end SolidityGateway
