/-!
# JSON values

Objects keep the order of their fields. A number is an integer when it was written as one and
fits 64 bits, and a float otherwise. In an object with a repeated key the first field counts;
`put` never repeats one.
-/

namespace DiagnosticReport

/-- A JSON number. -/
inductive Number where
  | int (n : Int)
  | float (x : Float)

/-- A JSON value. -/
inductive Json where
  | null
  | bool (b : Bool)
  | number (n : Number)
  | string (s : String)
  | array (items : List Json)
  | object (fields : List (String × Json))

namespace Number

/-- The 64-bit float of a number; an integer is rounded to the nearest one. -/
def toFloat : Number → Float
  | int n => Float.ofInt n
  | float x => x

end Number

namespace Json

instance : Inhabited Json := ⟨null⟩

/-- The value of a key among the fields of an object. -/
def lookup (key : String) (fields : List (String × Json)) : Option Json :=
  (fields.find? fun field => field.1 == key).map Prod.snd

/-- Set a key: a present key keeps its place, a new one goes to the end. -/
def put (key : String) (value : Json) (fields : List (String × Json)) : List (String × Json) :=
  if fields.any fun field => field.1 == key then
    fields.map fun field => if field.1 == key then (key, value) else field
  else fields ++ [(key, value)]

/-- The value under a key; values other than objects have none. -/
def get? (key : String) : Json → Option Json
  | object fields => lookup key fields
  | _ => none

/-- The text of a string. -/
def asString? : Json → Option String
  | string s => some s
  | _ => none

/-- The elements of an array. -/
def asArray? : Json → Option (List Json)
  | array items => some items
  | _ => none

/-- The fields of an object. -/
def asObject? : Json → Option (List (String × Json))
  | object fields => some fields
  | _ => none

/-- The truth value of a boolean. -/
def asBool? : Json → Option Bool
  | bool b => some b
  | _ => none

/-- The float of a number. -/
def asFloat? : Json → Option Float
  | number n => some n.toFloat
  | _ => none

/-- The value of a non-negative integer. -/
def asNat? : Json → Option Nat
  | number (.int (.ofNat n)) => some n
  | _ => none

/-- The value is `null`. -/
def isNull : Json → Bool
  | null => true
  | _ => false

/-- The value is an object. -/
def isObject : Json → Bool
  | object _ => true
  | _ => false

/-- The value is an array. -/
def isArray : Json → Bool
  | array _ => true
  | _ => false

/-- The value is a number. -/
def isNumber : Json → Bool
  | number _ => true
  | _ => false

/-- The text under a key, if it is a string. -/
def stringAt? (key : String) (value : Json) : Option String :=
  (value.get? key).bind asString?

/-- The elements under a key, if it is an array. -/
def arrayAt? (key : String) (value : Json) : Option (List Json) :=
  (value.get? key).bind asArray?

/-- The value under a key, unless it is missing or null. -/
def present? (key : String) (value : Json) : Option Json :=
  (value.get? key).filter fun v => !v.isNull

end Json

end DiagnosticReport
