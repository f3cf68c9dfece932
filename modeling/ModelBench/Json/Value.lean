import ModelBench.Decimal.Shortest

/-!
# JSON values

A number is an integer or a binary number, and stays what it was written as. The members of an
object are a list of pairs: an object that was read has them in ascending order of their names, one
that is built to be printed has them in printing order.
-/

namespace ModelBench

/-- A number of a JSON text. -/
inductive Json.Number
  | integer (value : Int)
  | real (value : Binary64)
  deriving DecidableEq, Repr

/-- A JSON value. -/
inductive Json
  | null
  | bool (value : Bool)
  | number (value : Json.Number)
  | string (value : String)
  | array (items : List Json)
  | object (members : List (String × Json))
  deriving Repr

instance : Inhabited Json := ⟨.null⟩

namespace Json

/-- Equality of numbers: an integer is never equal to a binary number, and the two zeros of binary
numbers are equal. -/
def Number.same : Number → Number → Bool
  | .integer a, .integer b => a == b
  | .real a, .real b => a.sameValue b
  | _, _ => false

/-! ## Equality of values -/

mutual

/-- Equality of values: items in order, members in order, numbers by `Number.same`. -/
def same : Json → Json → Bool
  | .null, .null => true
  | .bool a, .bool b => a == b
  | .number a, .number b => a.same b
  | .string a, .string b => a == b
  | .array a, .array b => sameItems a b
  | .object a, .object b => sameMembers a b
  | _, _ => false

/-- Equality of lists of items. -/
def sameItems : List Json → List Json → Bool
  | [], [] => true
  | a :: as, b :: bs => same a b && sameItems as bs
  | _, _ => false

/-- Equality of lists of members. -/
def sameMembers : List (String × Json) → List (String × Json) → Bool
  | [], [] => true
  | (k, a) :: as, (l, b) :: bs => k == l && same a b && sameMembers as bs
  | _, _ => false

end

instance : BEq Json := ⟨same⟩

/-! ## Building and taking apart -/

/-- The members with one more; a member of the same name is replaced. The names stay in ascending
order. -/
def insertMember (name : String) (value : Json) :
    List (String × Json) → List (String × Json)
  | [] => [(name, value)]
  | (other, old) :: rest =>
    if name < other then (name, value) :: (other, old) :: rest
    else if name = other then (name, value) :: rest
    else (other, old) :: insertMember name value rest

/-- The value of a member, null when there is none. -/
def field (name : String) : Json → Json
  | .object members => (members.lookup name).getD .null
  | _ => .null

/-- The text of a string, empty for anything else. -/
def toText : Json → String
  | .string s => s
  | _ => ""

/-- The text of a string, none for anything else. -/
def toText? : Json → Option String
  | .string s => some s
  | _ => none

/-- The value of a natural number, zero for anything else. -/
def toNat : Json → Nat
  | .number (.integer n) => n.toNat
  | _ => 0

/-- The items of an array, none for anything else. -/
def items : Json → List Json
  | .array items => items
  | _ => []

/-- The members of an object, none for anything else. -/
def members : Json → List (String × Json)
  | .object members => members
  | _ => []

/-- A natural number as a value. -/
def ofNat (n : Nat) : Json := .number (.integer n)

/-- A list of texts as a value. -/
def ofTexts (texts : List String) : Json := .array (texts.map .string)

end Json

end ModelBench
