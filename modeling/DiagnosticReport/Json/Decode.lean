import DiagnosticReport.Json.Printer
import DiagnosticReport.Json.Syntax
import DiagnosticReport.Text.Quoted

/-!
# Reading records from JSON

A `Record` says which fields a structure has, how each is read and which may be missing.
`Record.read` takes an object, whose fields it reads in the order in which they stand, or an array
with the fields in the order of their declaration. The first fault is the error.
`Record.readText?` reads text; there a field that is written twice is a fault, and what stands
under an unknown field need only be grammatical.
-/

namespace DiagnosticReport

/-! ## Errors -/

/-- What was found in place of the expected value. -/
inductive Found where
  | null
  | bool (b : Bool)
  | number (n : Number)
  | string (s : String)
  | sequence
  | map

/-- Why a value cannot be read as a structure. -/
inductive DecodeError where
  | missingField (name : String)
  | unknownField (name : String) (known : List String)
  | unknownVariant (name : String) (known : List String)
  | invalidType (found : Found) (expected : String)
  | invalidValue (found : Found) (expected : String)
  | invalidLength (length : Nat) (expected : String)

/-- What stands in a value. -/
def Found.ofJson : Json → Found
  | .null => null
  | .bool b => bool b
  | .number n => number n
  | .string s => string s
  | .array _ => sequence
  | .object _ => map

/-- The wording of what was found. -/
def Found.message : Found → String
  | null => "null"
  | bool b => "boolean `" ++ (if b then "true" else "false") ++ "`"
  | number (.int n) => "integer `" ++ Decimal.intText n ++ "`"
  | number (.float x) => "floating point `" ++ Json.numberText (.float x) ++ "`"
  | string s => "string " ++ Text.quoted s
  | sequence => "sequence"
  | map => "map"

/-- A name in backquotes. -/
def backquoted (name : String) : String :=
  "`" ++ name ++ "`"

/-- The names that would have been accepted. -/
def alternatives : List String → String
  | [] => ""
  | [a] => "expected " ++ backquoted a
  | [a, b] => "expected " ++ backquoted a ++ " or " ++ backquoted b
  | names => "expected one of " ++ String.intercalate ", " (names.map backquoted)

/-- The wording of an error. -/
def DecodeError.message : DecodeError → String
  | missingField name => "missing field " ++ backquoted name
  | unknownField name known => "unknown field " ++ backquoted name ++ ", " ++ alternatives known
  | unknownVariant name known => "unknown variant " ++ backquoted name ++ ", " ++ alternatives known
  | invalidType found expected => "invalid type: " ++ found.message ++ ", expected " ++ expected
  | invalidValue found expected => "invalid value: " ++ found.message ++ ", expected " ++ expected
  | invalidLength length expected =>
    "invalid length " ++ Decimal.natText length ++ ", expected " ++ expected

/-! ## Readers of single values -/

/-- A reader of values. -/
abbrev Reader (α : Type) := Json → Except DecodeError α

namespace Reader

/-- The error for a value of the wrong type. -/
def mismatch {α : Type} (value : Json) (expected : String) : Except DecodeError α :=
  .error (.invalidType (.ofJson value) expected)

/-- Any value. -/
def any : Reader Json
  | value => .ok value

/-- A string. -/
def string : Reader String
  | .string s => .ok s
  | value => mismatch value "a string"

/-- A boolean. -/
def bool : Reader Bool
  | .bool b => .ok b
  | value => mismatch value "a boolean"

/-- A number as a float. -/
def float : Reader Float
  | .number n => .ok n.toFloat
  | value => mismatch value "f64"

/-- An integer from 0 up to and without `bound`. -/
def natBelow (bound : Nat) (expected : String) : Reader Nat
  | .number (.int n) =>
    if 0 ≤ n ∧ n < (bound : Int) then .ok n.toNat
    else .error (.invalidValue (.number (.int n)) expected)
  | value => mismatch value expected

/-- A count or a position. -/
def size : Reader Nat :=
  natBelow (Nat.pow 2 64) "usize"

/-- A number from 0 to 255. -/
def byte : Reader Nat :=
  natBelow 256 "u8"

/-- A value or `null`. -/
def nullable {α : Type} (reader : Reader α) : Reader (Option α)
  | .null => .ok none
  | value => (reader value).map some

/-- An array. -/
def list {α : Type} (reader : Reader α) : Reader (List α)
  | .array items => items.mapM reader
  | value => mismatch value "a sequence"

/-- Nothing but `null`. -/
def unit : Reader Unit
  | .null => .ok ()
  | value => mismatch value "unit"

/-- One of several names, alone or as the only key of an object that maps it to `null`. -/
def variant {α : Type} (ofName : String → Except DecodeError α) : Reader α
  | .string name => ofName name
  | .object [(name, payload)] => do
    let result ← ofName name
    unit payload
    return result
  | .object fields => .error (.invalidValue (.ofJson (.object fields)) "map with a single key")
  | value => mismatch value "string or map"

end Reader

/-! ## Shapes of text -/

/-- How far the text of a value is looked at before it is read. -/
inductive Shape where
  /-- Any value. -/
  | any
  /-- An array whose elements have one shape. -/
  | list (item : Shape)
  /-- A name or an object with one key, which must not be written twice. -/
  | variant
  /-- A record; if it is open, unknown fields are skipped. -/
  | record (isOpen : Bool) (fields : List (String × Shape))

namespace Syntax

mutual

/-- The tree without skipped fields; none if a field is written twice. -/
def restrict? (shape : Shape) : Syntax → Option Syntax
  | array items =>
    match shape with
    | .list item => (restrictAll? item items).map array
    | .record _ fields => (restrictInOrder? (fields.map Prod.snd) items).map array
    | _ => some (array items)
  | object fields =>
    match shape with
    | .record isOpen known => (restrictFields? isOpen known [] fields).map object
    | .variant => if keysDistinct fields then some (object fields) else none
    | _ => some (object fields)
  | tree => some tree

/-- All elements restricted to one shape. -/
def restrictAll? (shape : Shape) : List Syntax → Option (List Syntax)
  | [] => some []
  | item :: rest => do
    let item ← restrict? shape item
    let rest ← restrictAll? shape rest
    return item :: rest

/-- Elements restricted to the shapes of fields in their order. -/
def restrictInOrder? (shapes : List Shape) : List Syntax → Option (List Syntax)
  | [] => some []
  | item :: rest => do
    let item ← restrict? (shapes.headD .any) item
    let rest ← restrictInOrder? shapes.tail rest
    return item :: rest

/-- Fields restricted to their shapes; `seen` holds the known names read so far. -/
def restrictFields? (isOpen : Bool) (known : List (String × Shape)) (seen : List String) :
    List (Option String × Syntax) → Option (List (Option String × Syntax))
  | [] => some []
  | (key, item) :: rest => do
    let name ← key
    match known.lookup name with
    | some shape =>
      if seen.contains name then none
      else
        let item ← restrict? shape item
        let rest ← restrictFields? isOpen known (name :: seen) rest
        return (key, item) :: rest
    | none =>
      let rest ← restrictFields? isOpen known seen rest
      return if isOpen then rest else (key, item) :: rest

/-- No key is written twice. -/
def keysDistinct : List (Option String × Syntax) → Bool
  | [] => true
  | (key, _) :: rest => !(rest.map Prod.fst).contains key && keysDistinct rest

end

end Syntax

/-! ## Records -/

/-- Where a field may be missing. -/
inductive Presence where
  | required
  /-- It may be missing from an object. -/
  | nullable
  /-- It may be missing from an object and at the end of an array. -/
  | optional
deriving DecidableEq

/-- A field of a record. -/
structure Field (ρ : Type) where
  name : String
  presence : Presence
  /-- Read the field and set it. -/
  read : Json → Except DecodeError (ρ → ρ)
  shape : Shape := .any

/-- The fields of a structure. -/
structure Record (ρ : Type) where
  name : String
  /-- Unknown fields are skipped. -/
  isOpen : Bool
  fields : List (Field ρ)
  /-- The value of a structure none of whose fields are given. -/
  blank : ρ

/-- A field whose value is set by `set`. -/
def Field.of {ρ α : Type} (name : String) (presence : Presence) (reader : Reader α)
    (set : α → ρ → ρ) (shape : Shape := .any) : Field ρ :=
  ⟨name, presence, fun value => (reader value).map set, shape⟩

namespace Record

variable {ρ : Type}

/-- The name of a structure as it stands in messages. -/
def expected (record : Record ρ) : String :=
  "struct " ++ record.name

/-- The structure and its number of fields. -/
def expectedLength (record : Record ρ) : String :=
  let n := record.fields.length
  record.expected ++ " with " ++ Decimal.natText n ++ (if n = 1 then " element" else " elements")

/-- Read one field of an object into the structure. -/
def readField (record : Record ρ) (done : ρ) (field : String × Json) : Except DecodeError ρ :=
  match record.fields.find? fun f => f.name == field.1 with
  | some f => (f.read field.2).map fun set => set done
  | none =>
    if record.isOpen then .ok done
    else .error (.unknownField field.1 (record.fields.map Field.name))

/-- Read an object. -/
def readObject (record : Record ρ) (fields : List (String × Json)) : Except DecodeError ρ := do
  let result ← fields.foldlM record.readField record.blank
  match record.fields.find? fun f =>
      f.presence == .required && !fields.any fun field => field.1 == f.name with
  | some f => .error (.missingField f.name)
  | none => .ok result

/-- Read the elements of an array as the fields that are left, after `index` of them. -/
def readElements (record : Record ρ) (length index : Nat) (done : ρ) :
    List (Field ρ) → List Json → Except DecodeError ρ
  | [], [] => .ok done
  | [], _ :: _ => .error (.invalidLength length "fewer elements in array")
  | f :: fields, [] =>
    if f.presence = .optional then readElements record length (index + 1) done fields []
    else .error (.invalidLength index record.expectedLength)
  | f :: fields, item :: items => do
    let set ← f.read item
    readElements record length (index + 1) (set done) fields items

/-- Read a structure from an object or an array. -/
def read (record : Record ρ) : Reader ρ
  | .object fields => record.readObject fields
  | .array items => record.readElements items.length 0 record.blank record.fields items
  | value => Reader.mismatch value record.expected

/-- The shape of the text of a structure. -/
def shape (record : Record ρ) : Shape :=
  .record record.isOpen (record.fields.map fun f => (f.name, f.shape))

/-- Read a structure from text; none if the text is no JSON or does not fit. -/
def readText? (record : Record ρ) (text : String) : Option ρ := do
  let tree ← Syntax.parse? text
  let tree ← tree.restrict? record.shape
  let value ← tree.toJson?
  (record.read value).toOption

end Record

end DiagnosticReport
