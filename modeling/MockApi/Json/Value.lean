import MockApi.Entries

/-! # JSON values

Objects keep the order of their members. A number is a 64 bit integer, signed or unsigned, or a
double; the two kinds are written differently, so they stay apart.
-/

namespace MockApi

namespace Json

/-- A number as it is stored: an integer in the 64 bit ranges, or a double. -/
inductive Number where
  | integer (value : Int)
  | double (value : Float)
deriving DecidableEq, Repr

/-- The number as a double, rounded when it is a large integer. -/
def Number.toFloat : Number → Float
  | .integer i => Float.ofInt i
  | .double x => x

end Json

/-- A JSON value with ordered object members. -/
inductive Json where
  | null
  | bool (value : Bool)
  | number (value : Json.Number)
  | string (value : String)
  | array (items : List Json)
  | object (members : List (String × Json))
deriving Inhabited, Repr

namespace Json

/-- An integer as a JSON number. -/
def int (i : Int) : Json := .number (.integer i)

/-- A count as a JSON number. -/
def nat (n : Nat) : Json := .number (.integer n)

/-- A double as a JSON number; what is not finite becomes `null`. -/
def ofFloat (x : Float) : Json := if x.isFinite then .number (.double x) else .null

/-- An object from members of which the later ones win and keep the earlier place. -/
def ofMembers (members : List (String × Json)) : Json := .object (Entries.ofList members)

/-- The member of an object. -/
def member? (key : String) : Json → Option Json
  | .object members => members.lookup key
  | _ => none

mutual

/-- True when two values are the same text: same kinds, numbers and order. -/
def same : Json → Json → Bool
  | .null, .null => true
  | .bool a, .bool b => a == b
  | .number a, .number b => a == b
  | .string a, .string b => a == b
  | .array a, .array b => sameItems a b
  | .object a, .object b => sameMembers a b
  | _, _ => false

/-- Item by item comparison. -/
def sameItems : List Json → List Json → Bool
  | [], [] => true
  | a :: as, b :: bs => same a b && sameItems as bs
  | _, _ => false

/-- Member by member comparison. -/
def sameMembers : List (String × Json) → List (String × Json) → Bool
  | [], [] => true
  | (k, a) :: as, (l, b) :: bs => k == l && same a b && sameMembers as bs
  | _, _ => false

end

end Json

end MockApi
